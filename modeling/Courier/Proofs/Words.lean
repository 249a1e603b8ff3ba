import Courier.WireLine
import Courier.Quoting
import Mathlib.Data.List.Basic
import Mathlib.Data.List.Infix
import Mathlib.Data.List.TakeWhile

/-!
# Reading command lines back

A quoted name is read back as it was, whatever characters it is made of, so no two names are quoted
alike. So is a word that stands unquoted, if it has no blank and does not begin with a double quote.
In any other case the words of a line with such a word before a quoted name are not those the line
is meant to have: what is not read as a plain word was read as a quoted one, and that takes more
characters than it has. Quotes do nothing about line breaks: a line has one exactly if one of its
words does.
-/

namespace Courier

namespace Quoting

variable {word name rest : List Char} {words : List (List Char)} {c : Char}

/-- The line ends, or goes on with a blank. -/
def Ends (rest : List Char) : Prop := ∀ c ∈ rest.head?, c = ' '

/-- A text that is read as one word where it stands unquoted. -/
structure IsPlain (cs : List Char) : Prop where
  nonempty : cs ≠ []
  unbroken : ' ' ∉ cs
  unquoted : cs.head? ≠ some '"'

instance (cs : List Char) : Decidable (IsPlain cs) :=
  decidable_of_iff (cs ≠ [] ∧ ' ' ∉ cs ∧ cs.head? ≠ some '"')
    ⟨fun ⟨nonempty, unbroken, unquoted⟩ => ⟨nonempty, unbroken, unquoted⟩,
      fun plain => ⟨plain.nonempty, plain.unbroken, plain.unquoted⟩⟩

/-! ## Doubled quotes -/

theorem doubled_append (one other : List Char) :
    doubled (one ++ other) = doubled one ++ doubled other := by
  induction one with
  | nil => rfl
  | cons c one ih =>
      by_cases mark : c = '"'
      · simp [doubled, mark, ih]
      · simp [doubled, mark, ih]

theorem doubled_reverse (cs : List Char) : (doubled cs).reverse = doubled cs.reverse := by
  induction cs with
  | nil => rfl
  | cons c cs ih =>
      rw [List.reverse_cons, doubled_append, ← ih]
      by_cases mark : c = '"'
      · simp [doubled, mark]
      · simp [doubled, mark]

theorem length_le_doubled (cs : List Char) : cs.length ≤ (doubled cs).length := by
  induction cs with
  | nil => exact Nat.le_refl 0
  | cons c cs ih =>
      rw [doubled]
      split
      · simp only [List.length_cons]
        omega
      · simp only [List.length_cons]
        omega

theorem length_lt_doubled {cs : List Char} (mark : '"' ∈ cs) :
    cs.length < (doubled cs).length := by
  obtain ⟨before, after, rfl⟩ := List.append_of_mem mark
  rw [doubled_append, show doubled ('"' :: after) = '"' :: '"' :: doubled after from if_pos rfl]
  have least := length_le_doubled before
  have more := length_le_doubled after
  simp only [List.length_append, List.length_cons]
  omega

/-- A text that begins like its own doubled form after another quote has nothing but quotes. -/
theorem quotes_of_prefix {cs rest : List Char} (count : Nat)
    (leads : cs <+: List.replicate (count + 1) '"' ++ (doubled cs ++ rest)) :
    ∀ c ∈ cs, c = '"' := by
  induction cs generalizing count with
  | nil => exact List.forall_mem_nil _
  | cons c cs ih =>
      rw [List.replicate_succ, List.cons_append, List.cons_prefix_cons] at leads
      obtain ⟨rfl, leads⟩ := leads
      refine List.forall_mem_cons.2 ⟨rfl, ih (count + 1) ?_⟩
      rw [List.replicate_succ', List.replicate_succ']
      simpa [doubled] using leads

/-! ## Words that stand in a line -/

theorem wordsFrom_blank (rest : List Char) :
    wordsFrom .between (' ' :: rest) = wordsFrom .between rest := by
  rw [wordsFrom, if_pos rfl]

theorem wordsFrom_quote (rest : List Char) :
    wordsFrom .between ('"' :: rest) = wordsFrom (.inside []) rest := by
  rw [wordsFrom, if_neg (by decide), if_pos rfl]

theorem wordsFrom_start (blank : c ≠ ' ') (mark : c ≠ '"') (rest : List Char) :
    wordsFrom .between (c :: rest) = wordsFrom (.plain [c]) rest := by
  rw [wordsFrom, if_neg blank, if_neg mark]

/-- An unquoted word goes on up to the next blank. -/
theorem wordsFrom_plain (word cs : List Char) :
    wordsFrom (.plain word) cs =
      (word.reverse ++ cs.takeWhile (· ≠ ' ')) :: wordsFrom .between (cs.dropWhile (· ≠ ' ')) := by
  induction cs generalizing word with
  | nil => simp [wordsFrom]
  | cons c rest ih =>
      by_cases blank : c = ' '
      · subst blank
        rw [wordsFrom, if_pos rfl]
        simp [wordsFrom_blank]
      · rw [wordsFrom, if_neg blank, ih]
        simp [blank]

/-- A plain text is read as one word. -/
theorem wordsFrom_of_isPlain (plain : IsPlain name) (ends : Ends rest) :
    wordsFrom .between (name ++ rest) = name :: wordsFrom .between rest := by
  obtain ⟨nonempty, unbroken, unquoted⟩ := plain
  cases name with
  | nil => exact absurd rfl nonempty
  | cons c name =>
      obtain ⟨blank, unbroken⟩ := not_or.1 (List.mem_cons.not.1 unbroken)
      have whole : ∀ d ∈ name, decide (d ≠ ' ') = true := by
        intro d mem
        exact decide_eq_true fun is => unbroken (is ▸ mem)
      have stops : rest.takeWhile (· ≠ ' ') = [] ∧ rest.dropWhile (· ≠ ' ') = rest := by
        cases rest with
        | nil => exact ⟨rfl, rfl⟩
        | cons d later =>
            obtain rfl : d = ' ' := ends d rfl
            exact ⟨rfl, rfl⟩
      rw [List.cons_append, wordsFrom_start (Ne.symm blank) (fun is => unquoted (congrArg some is)),
        wordsFrom_plain, List.takeWhile_append_of_pos whole, List.dropWhile_append_of_pos whole,
        stops.1, stops.2]
      simp

/-- A quoted word is over at a double quote that is not doubled. -/
theorem wordsFrom_afterQuote (word : List Char) (single : rest.head? ≠ some '"') :
    wordsFrom (.afterQuote word) rest = word.reverse :: wordsFrom .between rest := by
  cases rest with
  | nil => rfl
  | cons c rest =>
      have mark : c ≠ '"' := fun is => single (congrArg some is)
      by_cases blank : c = ' '
      · subst blank
        rw [wordsFrom_blank, wordsFrom, if_neg mark, if_pos rfl]
      · rw [wordsFrom_start blank mark, wordsFrom, if_neg mark, if_neg blank]

/-- What stands between double quotes is read back as it was. -/
theorem wordsFrom_doubled (word name : List Char) (single : rest.head? ≠ some '"') :
    wordsFrom (.inside word) (doubled name ++ '"' :: rest) =
      (word.reverse ++ name) :: wordsFrom .between rest := by
  induction name generalizing word with
  | nil =>
      rw [doubled, List.nil_append, wordsFrom, if_pos rfl, wordsFrom_afterQuote word single,
        List.append_nil]
  | cons c name ih =>
      have joined : (c :: word).reverse ++ name = word.reverse ++ c :: name := by simp
      by_cases mark : c = '"'
      · subst mark
        rw [doubled, if_pos rfl, List.cons_append, List.cons_append, wordsFrom, if_pos rfl,
          wordsFrom, if_pos rfl, ih, joined]
      · rw [doubled, if_neg mark, List.cons_append, wordsFrom, if_neg mark, ih, joined]

/-- The characters of a quoted name: those of the name, or the name between double quotes. -/
theorem toList_quote (name : String) :
    (quote name).toList = name.toList ∧ IsPlain name.toList ∨
      (quote name).toList = '"' :: (doubled name.toList ++ ['"']) := by
  unfold quote
  simp only
  split
  · rename_i safe
    obtain ⟨nonempty, all⟩ := Bool.and_eq_true_iff.1 safe
    refine .inl ⟨rfl, ?_, ?_, ?_⟩
    · rintro none
      rw [none] at nonempty
      cases nonempty
    · intro blank
      exact absurd (List.all_eq_true.1 all _ blank) (by decide)
    · intro mark
      exact absurd (List.all_eq_true.1 all _ (List.mem_of_head? mark)) (by decide)
  · exact .inr (by simp)

/-- A quoted name is read as one word, which is the name. -/
theorem wordsFrom_toList_quote (name : String) (ends : Ends rest) :
    wordsFrom .between ((quote name).toList ++ rest) =
      name.toList :: wordsFrom .between rest := by
  rcases toList_quote name with ⟨asIs, plain⟩ | quoted
  · rw [asIs, wordsFrom_of_isPlain plain ends]
  · have single : rest.head? ≠ some '"' := by
      intro mark
      exact absurd (ends _ mark) (by decide)
    rw [quoted, List.cons_append, List.append_assoc, wordsFrom_quote]
    exact wordsFrom_doubled [] name.toList single

/-! ## What a word was read from -/

/-- What is left of a line where a quoted word is over, and the words in it. -/
inductive Closes : List Char → List (List Char) → Prop where
  | line : Closes [] []
  | quote {rest : List Char} {words : List (List Char)} (read : wordsFrom .between rest = words) :
      Closes ('"' :: rest) words

/-- A word that is read inside double quotes stands there with its own double quotes doubled. -/
theorem wordsFrom_inside (before cs : List Char) :
    ∃ name rest words, wordsFrom (.inside before) cs = (before.reverse ++ name) :: words ∧
      cs = doubled name ++ rest ∧ Closes rest words := by
  match cs with
  | [] => exact ⟨[], [], [], by rw [wordsFrom, List.append_nil], rfl, .line⟩
  | c :: cs =>
      by_cases mark : c = '"'
      · subst mark
        rw [wordsFrom, if_pos rfl]
        by_cases single : cs.head? ≠ some '"'
        · refine ⟨[], '"' :: cs, _, ?_, rfl, .quote rfl⟩
          rw [wordsFrom_afterQuote before single, List.append_nil]
        · obtain ⟨cs, rfl⟩ := List.head?_eq_some_iff.1 (not_not.1 single)
          obtain ⟨name, rest, words, read, rfl, closes⟩ := wordsFrom_inside ('"' :: before) cs
          refine ⟨'"' :: name, rest, words, ?_, by simp [doubled], closes⟩
          rw [wordsFrom, if_pos rfl, read]
          simp
      · rw [wordsFrom, if_neg mark]
        obtain ⟨name, rest, words, read, rfl, closes⟩ := wordsFrom_inside (c :: before) cs
        exact ⟨c :: name, rest, words, by rw [read]; simp, by simp [doubled, mark], closes⟩
termination_by cs.length

/-- After some blanks, the first word of a line stands there as it is, if it is plain, or else
between double quotes. -/
theorem exists_of_wordsFrom {cs : List Char} (read : wordsFrom .between cs = word :: words) :
    ∃ count rest, IsPlain word ∧ cs = List.replicate count ' ' ++ (word ++ rest) ∧
        words = wordsFrom .between rest ∨
      cs = List.replicate count ' ' ++ ('"' :: (doubled word ++ rest)) ∧ Closes rest words := by
  induction cs with
  | nil => cases read
  | cons c cs ih =>
      by_cases blank : c = ' '
      · subst blank
        rw [wordsFrom_blank] at read
        obtain ⟨count, rest, stands⟩ := ih read
        refine ⟨count + 1, rest, ?_⟩
        rw [List.replicate_succ, List.cons_append, List.cons_append, List.cons_inj_right,
          List.cons_inj_right]
        exact stands
      · by_cases mark : c = '"'
        · subst mark
          rw [wordsFrom_quote] at read
          obtain ⟨name, rest, words', quoted, rfl, closes⟩ := wordsFrom_inside [] cs
          obtain ⟨rfl, rfl⟩ := List.cons.inj (read.symm.trans quoted)
          exact ⟨0, rest, .inr ⟨rfl, closes⟩⟩
        · rw [wordsFrom_start blank mark, wordsFrom_plain] at read
          obtain ⟨rfl, rfl⟩ := List.cons.inj read.symm
          refine ⟨0, cs.dropWhile (· ≠ ' '), .inl ⟨⟨?_, ?_, ?_⟩, ?_, rfl⟩⟩
          · exact List.cons_ne_nil _ _
          · intro mem
            rcases List.mem_cons.1 mem with is | mem
            · exact blank is.symm
            · have kept := List.mem_takeWhile_imp mem
              cases kept
          · exact fun is => mark (Option.some.inj is)
          · simp

/-- Only blanks have no word in them. -/
theorem blank_of_wordsFrom (none : wordsFrom .between rest = []) : ∀ c ∈ rest, c = ' ' := by
  induction rest with
  | nil => exact List.forall_mem_nil _
  | cons c rest ih =>
      by_cases blank : c = ' '
      · subst blank
        rw [wordsFrom_blank] at none
        exact List.forall_mem_cons.2 ⟨rfl, ih none⟩
      · exfalso
        by_cases mark : c = '"'
        · subst mark
          obtain ⟨_, _, _, quoted, -⟩ := wordsFrom_inside [] rest
          rw [wordsFrom_quote, quoted] at none
          cases none
        · rw [wordsFrom_start blank mark, wordsFrom_plain] at none
          cases none

/-! ## A word before a quoted name -/

/-- A quoted name is not to be read from fewer characters. -/
theorem wordsFrom_ne_of_suffix {name : String} {cs : List Char}
    (suffix : cs <:+ (quote name).toList) (less : cs.length + 1 < (quote name).toList.length) :
    wordsFrom .between cs ≠ [name.toList] := by
  intro read
  obtain ⟨count, rest, ⟨plain, rfl, none⟩ | ⟨rfl, -⟩⟩ := exists_of_wordsFrom read
  · rcases toList_quote name with ⟨asIs, -⟩ | quoted
    · rw [asIs] at less
      simp only [List.length_append] at less
      omega
    · -- read backwards, the name begins like what was sent for it, which begins with quotes
      have backwards : (quote name).toList.reverse =
          List.replicate (0 + 1) '"' ++ (doubled name.toList.reverse ++ ['"']) := by
        rw [quoted, ← doubled_reverse]
        simp
      have prefixed := List.reverse_prefix.2 suffix
      rw [backwards, List.reverse_append, List.reverse_append, List.append_assoc] at prefixed
      have last : rest = [] := by
        cases ends : rest.reverse with
        | nil => exact List.reverse_eq_nil_iff.1 ends
        | cons c later =>
            rw [ends, List.cons_append] at prefixed
            have mark : c = '"' := (List.cons_prefix_cons.1 prefixed).1
            have blank : c = ' ' := by
              refine blank_of_wordsFrom none.symm c (List.mem_reverse.1 ?_)
              rw [ends]
              exact List.mem_cons_self
            exact absurd (mark.symm.trans blank) (by decide)
      subst last
      rw [List.reverse_nil, List.nil_append] at prefixed
      have quotes := quotes_of_prefix 0 ((List.prefix_append _ _).trans prefixed)
      obtain ⟨nonempty, -, unquoted⟩ := plain
      cases begins : name.toList with
      | nil => exact nonempty begins
      | cons c later =>
          rw [begins] at unquoted quotes
          exact unquoted (congrArg some (quotes c (List.mem_reverse.2 List.mem_cons_self)))
  · have least := length_le_doubled name.toList
    simp only [List.length_append, List.length_cons, List.length_replicate] at less
    rcases toList_quote name with ⟨asIs, -⟩ | quoted
    · rw [asIs] at less
      omega
    · rw [quoted] at less
      simp only [List.length_append, List.length_cons, List.length_nil] at less
      omega

/-- The words of a text before a quoted name are these two exactly if the text is plain. -/
theorem wordsFrom_eq_iff (cs : List Char) (name : String) :
    wordsFrom .between (cs ++ ' ' :: (quote name).toList) = [cs, name.toList] ↔ IsPlain cs := by
  constructor
  · intro read
    obtain ⟨count, rest, ⟨plain, -⟩ | ⟨stands, closes⟩⟩ := exists_of_wordsFrom read
    · exact plain
    · -- the text was read as a quoted word, so it reaches into the name
      exfalso
      cases closes with
      | @quote later words again =>
          have longer : cs.length + 1 ≤ count + (doubled cs).length := by
            cases count with
            | zero =>
                cases cs with
                | nil => cases stands
                | cons c cs =>
                    obtain rfl : c = '"' := (List.cons.inj stands).1
                    have more : ('"' :: cs).length < (doubled ('"' :: cs)).length :=
                      length_lt_doubled List.mem_cons_self
                    omega
            | succ count =>
                have least := length_le_doubled cs
                omega
          have lengths := congrArg List.length stands
          simp only [List.length_append, List.length_cons, List.length_replicate] at lengths
          refine wordsFrom_ne_of_suffix ?_ (by omega) again
          refine List.suffix_of_suffix_length_le ?_ (List.suffix_append (cs ++ [' ']) _) (by omega)
          rw [List.append_assoc, List.singleton_append, stands]
          exact ⟨List.replicate count ' ' ++ '"' :: (doubled cs ++ ['"']), by simp⟩
  · intro plain
    rw [wordsFrom_of_isPlain plain (by rintro c ⟨⟩; rfl), wordsFrom_blank]
    have whole : wordsFrom .between ((quote name).toList ++ []) = [name.toList] :=
      wordsFrom_toList_quote name (by rintro c ⟨⟩)
    rw [List.append_nil] at whole
    rw [whole]

/-! ## Whole lines -/

/-- The names of a line are quoted, each after a blank. -/
def arguments (names : List String) : List Char :=
  names.flatMap fun name => ' ' :: (quote name).toList

theorem wordsFrom_arguments (names : List String) :
    wordsFrom .between (arguments names) = names.map String.toList := by
  induction names with
  | nil => rfl
  | cons name names ih =>
      have ends : Ends (arguments names) := by
        cases names with
        | nil => rintro c ⟨⟩
        | cons name names => rintro c ⟨⟩; rfl
      have parted : arguments (name :: names) =
          ' ' :: ((quote name).toList ++ arguments names) := rfl
      rw [parted, wordsFrom_blank, wordsFrom_toList_quote name ends, ih, List.map_cons]

theorem wordsFrom_command {verb : List Char} (plain : IsPlain verb) (names : List String) :
    wordsFrom .between (verb ++ arguments names) = verb :: names.map String.toList := by
  have ends : Ends (arguments names) := by
    cases names with
    | nil => rintro c ⟨⟩
    | cons name names => rintro c ⟨⟩; rfl
  rw [wordsFrom_of_isPlain plain ends, wordsFrom_arguments]

theorem words_eq_iff (line : String) (expected : List String) :
    Quoting.words line = expected ↔
      wordsFrom .between line.toList = expected.map String.toList := by
  unfold Quoting.words
  constructor
  · rintro rfl
    simp [Function.comp_def]
  · intro read
    rw [read]
    simp [Function.comp_def]

/-! ## A verb and quoted names -/

/-- The line of a verb and quoted names, with a blank between neighbours. -/
def commandLine (verb : String) (names : List String) : String :=
  " ".intercalate (verb :: names.map quote)

theorem toList_commandLine (verb : String) (names : List String) :
    (commandLine verb names).toList = verb.toList ++ arguments names := by
  unfold commandLine
  induction names generalizing verb with
  | nil => simp [arguments]
  | cons name names ih =>
      have parted : arguments (name :: names) =
          ' ' :: ((quote name).toList ++ arguments names) := rfl
      rw [List.map_cons, String.intercalate_cons_cons, String.toList_append, ih, parted]
      simp

theorem isPlain_of_letters {verb : String} (nonempty : verb ≠ "")
    (letters : verb.toList.all Char.isAlpha = true) : IsPlain verb.toList := by
  rw [List.all_eq_true] at letters
  refine ⟨?_, ?_, ?_⟩
  · intro none
    exact nonempty (String.toList_eq_nil_iff.1 none)
  · intro blank
    exact absurd (letters _ blank) (by decide)
  · intro mark
    exact absurd (letters _ (List.mem_of_head? mark)) (by decide)

/-- A verb and quoted names are read as they are; if there is no verb, only the names are. -/
theorem words_commandLine_iff {verb : String} (letters : verb.toList.all Char.isAlpha = true)
    (names : List String) :
    Quoting.words (commandLine verb names) = verb :: names ↔ verb ≠ "" := by
  rw [words_eq_iff, toList_commandLine]
  constructor
  · rintro read rfl
    have fewer : wordsFrom .between (arguments names) = "".toList :: names.map String.toList := read
    rw [wordsFrom_arguments] at fewer
    exact List.cons_ne_self _ _ fewer.symm
  · intro nonempty
    exact wordsFrom_command (isPlain_of_letters nonempty letters) names

theorem quote_injective : Function.Injective quote := by
  intro name other same
  have letters : "cd".toList.all Char.isAlpha = true := by decide
  have read (name : String) : Quoting.words (commandLine "cd" [name]) = ["cd", name] :=
    (words_commandLine_iff letters [name]).2 (by decide)
  have lines : commandLine "cd" [name] = commandLine "cd" [other] := by
    rw [commandLine, commandLine, List.map_singleton, List.map_singleton, same]
  have both : ["cd", name] = ["cd", other] := by
    rw [← read, ← read, lines]
  exact List.singleton_inj.1 (List.cons.inj both).2

/-- Quoting is undone by reading: whatever the names are, a line of a verb and the quoted names has
exactly these as its words, and so no two names are quoted alike. -/
theorem quoted_names_read_back :
    (∀ (verb : String) (names : List String), verb.toList.all Char.isAlpha = true →
      (Quoting.words (commandLine verb names) = verb :: names ↔ verb ≠ "")) ∧
    Function.Injective quote :=
  ⟨fun _ names letters => words_commandLine_iff letters names, quote_injective⟩

/-- Names of nothing, of blanks and of quotes only are read back as well. -/
theorem quoted_names_read_back_odd :
    Quoting.words (commandLine "put" ["", "a b", "\"", "\"x\"\"", " ", "Übung.txt", "plain"]) =
      ["put", "", "a b", "\"", "\"x\"\"", " ", "Übung.txt", "plain"] :=
  (quoted_names_read_back.1 "put" _ (by decide)).2 (by decide)

/-! ## Line breaks -/

def isBreak (c : Char) : Bool :=
  c = '\n' || c = '\r'

/-- A text has a line break in it. -/
def hasBreak (text : String) : Bool :=
  text.toList.any isBreak

/-- Quotes leave line breaks where they are. -/
theorem any_isBreak_quote (name : String) : (quote name).toList.any isBreak = hasBreak name := by
  have kept (cs : List Char) : (doubled cs).any isBreak = cs.any isBreak := by
    induction cs with
    | nil => rfl
    | cons c cs ih =>
        rw [doubled]
        split
        · rename_i mark
          rw [List.any_cons, List.any_cons, ih, List.any_cons, mark]
          rfl
        · rw [List.any_cons, ih, List.any_cons]
  rcases toList_quote name with ⟨asIs, -⟩ | quoted
  · rw [asIs, hasBreak]
  · rw [quoted, hasBreak, List.any_cons, List.any_append, kept]
    exact Bool.or_false _

theorem any_isBreak_arguments (names : List String) :
    (arguments names).any isBreak = names.any hasBreak := by
  rw [arguments, List.any_flatMap]
  exact congrArg names.any (funext any_isBreak_quote)

end Quoting

namespace WireLine

/-- The line is made by an operation, not by the caller. -/
def IsOwn : WireLine → Prop
  | raw _ => False
  | _ => True

/-- What stands in the line without quotes is read as one word. -/
def IsPlain : WireLine → Prop
  | chmod permission _ => Quoting.IsPlain permission.toList
  | _ => True

/-- The verbs of the lines that operations make. -/
def verbs : List String :=
  ["cd", "ls", "get", "put", "rm", "rmdir", "mkdir", "mv", "chmod"]

theorem plain_of_mem_verbs :
    ∀ verb ∈ verbs, Quoting.IsPlain verb.toList ∧ Quoting.hasBreak verb = false := by
  decide

/-- A line made by an operation is a verb before quoted names, but for a permission. -/
theorem toList_text {line : WireLine} (own : line.IsOwn) :
    (∃ permission object, line = chmod permission object) ∨
      line.IsPlain ∧ ∃ verb ∈ verbs, ∃ names, line.words = verb :: names ∧
        (line.text Quoting.quote).toList = verb.toList ++ Quoting.arguments names := by
  cases line with
  | raw line => exact own.elim
  | chmod permission object => exact .inl ⟨permission, object, rfl⟩
  | changeDir path =>
      exact .inr ⟨trivial, "cd", by decide, [path.text], rfl, by simp [text, Quoting.arguments]⟩
  | list => exact .inr ⟨trivial, "ls", by decide, [], rfl, rfl⟩
  | get object =>
      exact .inr ⟨trivial, "get", by decide, [object.text], rfl, by simp [text, Quoting.arguments]⟩
  | put object =>
      exact .inr ⟨trivial, "put", by decide, [object.text], rfl, by simp [text, Quoting.arguments]⟩
  | remove object =>
      exact .inr ⟨trivial, "rm", by decide, [object.text], rfl, by simp [text, Quoting.arguments]⟩
  | removeDir object =>
      exact .inr ⟨trivial, "rmdir", by decide, [object.text], rfl,
        by simp [text, Quoting.arguments]⟩
  | makeDir path =>
      exact .inr ⟨trivial, "mkdir", by decide, [path.text], rfl,
        by simp [text, Quoting.arguments]⟩
  | move source target =>
      exact .inr ⟨trivial, "mv", by decide, [source.text, target.text], rfl,
        by simp [text, Quoting.arguments]⟩

theorem toList_chmod (permission : String) (object : ObjectName) :
    ((chmod permission object).text Quoting.quote).toList =
      "chmod".toList ++
        ' ' :: (permission.toList ++ ' ' :: (Quoting.quote object.text).toList) := by
  simp [text]

/-- A line is read as the words it is meant to have exactly if what stands in it without quotes is
read as one word. -/
theorem words_text_iff {line : WireLine} (own : line.IsOwn) :
    Quoting.words (line.text Quoting.quote) = line.words ↔ line.IsPlain := by
  rw [Quoting.words_eq_iff]
  rcases toList_text own with ⟨permission, object, rfl⟩ | ⟨plain, verb, mem, names, intended, sent⟩
  · have verb := (plain_of_mem_verbs "chmod" (by decide)).1
    rw [toList_chmod, Quoting.wordsFrom_of_isPlain verb (by rintro c ⟨⟩; rfl),
      Quoting.wordsFrom_blank]
    show _ :: _ = "chmod".toList :: [permission.toList, object.text.toList] ↔ _
    rw [List.cons_inj_right, Quoting.wordsFrom_eq_iff]
    rfl
  · rw [intended, sent, Quoting.wordsFrom_command (plain_of_mem_verbs verb mem).1]
    exact iff_of_true rfl plain

/-- A line has a line break exactly if one of its words does. -/
theorem hasBreak_text {line : WireLine} (own : line.IsOwn) :
    Quoting.hasBreak (line.text Quoting.quote) = line.words.any Quoting.hasBreak := by
  rcases toList_text own with ⟨permission, object, rfl⟩ | ⟨-, verb, mem, names, intended, sent⟩
  · rw [Quoting.hasBreak, toList_chmod, List.any_append, List.any_cons, List.any_append,
      List.any_cons, Quoting.any_isBreak_quote]
    show _ = List.any ["chmod", permission, object.text] Quoting.hasBreak
    simp [Quoting.hasBreak, Quoting.isBreak]
  · rw [Quoting.hasBreak, sent, intended, List.any_append, Quoting.any_isBreak_arguments,
      List.any_cons]
    rfl

end WireLine

end Courier
