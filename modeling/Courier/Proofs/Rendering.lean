import Courier.Flags
import Courier.Reply
import Mathlib.Algebra.Group.Nat.Defs
import Mathlib.Data.List.Basic
import Mathlib.Data.List.Infix
import Mathlib.Data.List.Nodup

/-!
# Sets of bits are told by their texts

A text lists the constants in a set by name and what they leave as one hexadecimal numeral. Names
and numerals cannot be mistaken for one another or run together, and the constants with the rest
make up the set, even where they overlap. So different sets have different texts.
-/

namespace Courier

/-! ## Numerals -/

namespace Text

variable {count n : Nat} {cs : List Char}

theorem hexValue?_hexDigit (small : n < 16) : hexValue? (hexDigit n) = some n := by
  have all : ∀ n : Fin 16, hexValue? (hexDigit n) = some n.val := by decide
  exact all ⟨n, small⟩

theorem numeral_append (base : Nat) (cs : List Char) (c : Char) :
    numeral base (cs ++ [c]) = base * numeral base cs + (hexValue? c).getD 0 := by
  unfold numeral
  rw [List.foldl_append]
  rfl

theorem numeral_hexDigits (small : n < 16 ^ count) : numeral 16 (hexDigits count n) = n := by
  induction count generalizing n with
  | zero =>
      obtain rfl : n = 0 := by simpa using small
      rfl
  | succ count ih =>
      have above : n / 16 < 16 ^ count := Nat.div_lt_of_lt_mul (by rwa [← Nat.pow_succ'])
      rw [hexDigits, numeral_append, ih above, hexValue?_hexDigit (Nat.mod_lt n (by decide))]
      exact Nat.div_add_mod n 16

/-- Leading zeros do not count. -/
theorem numeral_dropWhile (base : Nat) (cs : List Char) :
    numeral base (cs.dropWhile (· = '0')) = numeral base cs := by
  induction cs with
  | nil => rfl
  | cons c rest ih =>
      by_cases zero : c = '0'
      · subst zero
        rw [List.dropWhile_cons_of_pos (by decide), ih]
        rfl
      · rw [List.dropWhile_cons_of_neg (by simpa using zero)]

theorem numeral_hexNumeral (small : n < 16 ^ count) : numeral 16 (hexNumeral count n) = n := by
  have value := numeral_dropWhile 16 (hexDigits count n)
  rw [numeral_hexDigits small] at value
  unfold hexNumeral
  split
  · rename_i none
    rw [none] at value
    exact value
  · exact value

theorem exists_of_mem_hexDigits {c : Char} (mem : c ∈ hexDigits count n) :
    ∃ k < 16, c = hexDigit k := by
  induction count generalizing n with
  | zero => cases mem
  | succ count ih =>
      rcases List.mem_append.1 mem with mem | mem
      · exact ih mem
      · exact ⟨n % 16, Nat.mod_lt n (by decide), List.mem_singleton.1 mem⟩

theorem exists_of_mem_hexNumeral {c : Char} (mem : c ∈ hexNumeral count n) :
    ∃ k < 16, c = hexDigit k := by
  unfold hexNumeral at mem
  split at mem
  · exact ⟨0, by decide, List.mem_singleton.1 mem⟩
  · exact exists_of_mem_hexDigits ((List.dropWhile_suffix _).subset mem)

/-! ## Texts with a separator between them -/

theorem toList_join_cons (sep text next : String) (rest : List String) :
    (join sep (text :: next :: rest)).toList =
      text.toList ++ (sep.toList ++ (join sep (next :: rest)).toList) := by
  show (text ++ sep ++ join sep (next :: rest)).toList = _
  simp only [String.toList_append, List.append_assoc]

/-- A text without a mark ends where the mark stands first. -/
theorem append_mark_inj {mark : Char} {front front' back back' : List Char} (whole : mark ∉ front)
    (whole' : mark ∉ front') (same : front ++ mark :: back = front' ++ mark :: back') :
    front = front' ∧ back = back' := by
  induction front generalizing front' with
  | nil =>
      cases front' with
      | nil => exact ⟨rfl, (List.cons.inj same).2⟩
      | cons c rest => exact absurd ((List.cons.inj same).1 ▸ List.mem_cons_self) whole'
  | cons c rest ih =>
      cases front' with
      | nil => exact absurd ((List.cons.inj same).1 ▸ List.mem_cons_self) whole
      | cons d rest' =>
          obtain ⟨rfl, later⟩ := List.cons.inj same
          obtain ⟨rfl, rfl⟩ :=
            ih (List.not_mem_of_not_mem_cons whole) (List.not_mem_of_not_mem_cons whole') later
          exact ⟨rfl, rfl⟩

/-- Texts without the character a separator begins with can be told from what they are joined
to. -/
theorem join_inj {sep : String} {mark : Char} {texts others : List String}
    (marks : sep.toList.head? = some mark) (filled : texts ≠ []) (filled' : others ≠ [])
    (plain : ∀ text ∈ texts, mark ∉ text.toList) (plain' : ∀ text ∈ others, mark ∉ text.toList)
    (same : join sep texts = join sep others) : texts = others := by
  obtain ⟨back, begins⟩ := List.head?_eq_some_iff.1 marks
  induction texts generalizing others with
  | nil => exact absurd rfl filled
  | cons text rest ih =>
      cases others with
      | nil => exact absurd rfl filled'
      | cons other others =>
          obtain ⟨whole, plainRest⟩ := List.forall_mem_cons.1 plain
          obtain ⟨whole', plainRest'⟩ := List.forall_mem_cons.1 plain'
          have letters := congrArg String.toList same
          cases rest with
          | nil =>
              cases others with
              | nil => exact congrArg (fun text => [text]) same
              | cons next others =>
                  rw [toList_join_cons, begins] at letters
                  exact absurd (letters ▸ by simp) whole
          | cons next rest =>
              cases others with
              | nil =>
                  rw [toList_join_cons, begins] at letters
                  exact absurd (letters ▸ by simp) whole'
              | cons next' others =>
                  rw [toList_join_cons, toList_join_cons, begins] at letters
                  obtain ⟨first, later⟩ := append_mark_inj whole whole' letters
                  have joined := String.toList_inj.1 (List.append_cancel_left later)
                  rw [String.toList_inj.1 first,
                    ih (by simp) (by simp) plainRest plainRest' joined]

end Text

/-! ## The parts of a set -/

namespace Bits

variable {w : Nat} {names : Names w} {a b : BitVec w} {empty : String}

theorem cover_and (within : ∀ entry ∈ names, contains a entry.2 = true) :
    a &&& cover names = cover names := by
  induction names with
  | nil => exact BitVec.and_zero
  | cons entry rest ih =>
      obtain ⟨first, others⟩ := List.forall_mem_cons.1 within
      have inside : a &&& entry.2 = entry.2 := beq_iff_eq.1 first
      show a &&& (entry.2 ||| cover rest) = entry.2 ||| cover rest
      rw [BitVec.and_or_distrib_left, inside, ih others]

theorem contains_of_mem_within {entry : String × BitVec w} (mem : entry ∈ within names a) :
    entry ∈ names ∧ entry.2 ≠ 0 ∧ contains a entry.2 = true := by
  obtain ⟨mem, kept⟩ := List.mem_filter.1 mem
  obtain ⟨filled, inside⟩ := (Bool.and_eq_true _ _).mp kept
  exact ⟨mem, by simpa using filled, inside⟩

theorem and_cover_within (names : Names w) (a : BitVec w) :
    a &&& cover (within names a) = cover (within names a) :=
  cover_and fun _ mem => (contains_of_mem_within mem).2.2

theorem cover_or_remainder (names : Names w) (a : BitVec w) :
    cover (within names a) ||| remainder names a = a := by
  have inside := and_cover_within names a
  unfold remainder difference
  generalize cover (within names a) = covered at inside
  rw [← inside]
  ext i
  simp only [BitVec.getElem_or, BitVec.getElem_and, BitVec.getElem_not]
  cases a[i] <;> cases covered[i] <;> rfl

theorem cover_and_remainder (names : Names w) (a : BitVec w) :
    cover (within names a) &&& remainder names a = 0 := by
  unfold remainder difference
  ext i
  simp only [BitVec.getElem_and, BitVec.getElem_not]
  cases (cover (within names a))[i] <;> simp

theorem parts_eq_nil_iff : parts names a = [] ↔ a = 0 := by
  constructor
  · intro none
    obtain ⟨unnamed, noRest⟩ := List.append_eq_nil_iff.1 none
    have rest : remainder names a = 0 := by
      by_contra left
      rw [if_neg left] at noRest
      cases noRest
    have whole := cover_or_remainder names a
    rw [List.map_eq_nil_iff.1 unnamed, rest] at whole
    exact whole.symm.trans BitVec.or_zero
  · rintro rfl
    have unnamed : within names (0 : BitVec w) = [] := by
      refine List.filter_eq_nil_iff.2 fun entry _ kept => ?_
      obtain ⟨filled, inside⟩ := (Bool.and_eq_true _ _).mp kept
      have none : entry.2 = 0 := (beq_iff_eq.1 inside).symm.trans BitVec.zero_and
      exact absurd none (by simpa using filled)
    have rest : remainder names (0 : BitVec w) = 0 := BitVec.zero_and
    unfold parts
    rw [unnamed, rest, if_pos rfl]
    rfl

/-! ## Names and numerals -/

/-- A text that neither separates others nor begins like a numeral. -/
def IsWord (text : String) : Prop :=
  ' ' ∉ text.toList ∧ '|' ∉ text.toList ∧ text.toList.take 2 ≠ ['0', 'x']

instance (text : String) : Decidable (IsWord text) := by
  unfold IsWord; infer_instance

/-- Each name is a word and names one constant, and the word for the empty set names no other. -/
def AreTelling (names : Names w) (empty : String) : Prop :=
  (names.map Prod.fst).Nodup ∧ (∀ entry ∈ names, IsWord entry.1) ∧ IsWord empty ∧
    ∀ entry ∈ names, entry.1 = empty → entry.2 = 0

instance (names : Names w) (empty : String) : Decidable (AreTelling names empty) := by
  unfold AreTelling; infer_instance

variable {entry : String × BitVec w} {text : String}

/-- Every character of a numeral is a digit or in its beginning. -/
theorem toList_numeral (a : BitVec w) :
    (numeral a).toList = '0' :: 'x' :: Text.hexNumeral (w / 4) a.toNat := by
  unfold numeral
  simp

theorem not_mem_numeral {c : Char} (other : c = ' ' ∨ c = '|') (a : BitVec w) :
    c ∉ (numeral a).toList := by
  rw [toList_numeral]
  intro mem
  have digits : ∀ k : Fin 16, Text.hexDigit k ≠ ' ' ∧ Text.hexDigit k ≠ '|' := by decide
  rcases List.mem_cons.1 mem with rfl | mem
  · revert other; decide
  · rcases List.mem_cons.1 mem with rfl | mem
    · revert other; decide
    · obtain ⟨k, small, rfl⟩ := Text.exists_of_mem_hexNumeral mem
      obtain ⟨blank, bar⟩ := digits ⟨k, small⟩
      exact other.elim blank bar

theorem numeral_injective (hex : 4 ∣ w) :
    Function.Injective (numeral : BitVec w → String) := by
  intro a b same
  obtain ⟨k, rfl⟩ := hex
  have fits (a : BitVec (4 * k)) : a.toNat < 16 ^ (4 * k / 4) := by
    rw [Nat.mul_div_cancel_left k (by decide), show 16 = 2 ^ 4 from rfl, ← Nat.pow_mul]
    exact a.isLt
  have letters := congrArg String.toList same
  rw [toList_numeral, toList_numeral, List.cons.injEq, List.cons.injEq] at letters
  have values := congrArg (Text.numeral 16) letters.2.2
  rw [Text.numeral_hexNumeral (fits a), Text.numeral_hexNumeral (fits b)] at values
  exact BitVec.eq_of_toNat_eq values

theorem mem_parts_iff : text ∈ parts names a ↔
    (∃ entry ∈ within names a, entry.1 = text) ∨
      remainder names a ≠ 0 ∧ text = numeral (remainder names a) := by
  unfold parts
  rw [List.mem_append, List.mem_map]
  by_cases rest : remainder names a = 0 <;> simp [rest]

theorem IsWord.ne_numeral (word : IsWord text) (a : BitVec w) : text ≠ numeral a := by
  rintro rfl
  exact word.2.2 (by rw [toList_numeral]; rfl)

/-- A constant is listed by its name just where it is in the set. -/
theorem AreTelling.mem_within_iff (telling : AreTelling names empty) :
    entry ∈ within names a ↔ entry ∈ names ∧ entry.1 ∈ parts names a := by
  obtain ⟨nodup, words, -, -⟩ := telling
  constructor
  · intro mem
    exact ⟨(contains_of_mem_within mem).1, mem_parts_iff.2 (.inl ⟨entry, mem, rfl⟩)⟩
  · rintro ⟨mem, listed⟩
    rcases mem_parts_iff.1 listed with ⟨other, within, same⟩ | ⟨-, numeral⟩
    · have is := List.inj_on_of_nodup_map nodup (contains_of_mem_within within).1 mem same
      exact is ▸ within
    · exact absurd numeral ((words entry mem).ne_numeral _)

theorem AreTelling.parts_injective (telling : AreTelling names empty) (hex : 4 ∣ w) :
    Function.Injective (parts names) := by
  intro a b same
  have named : within names a = within names b := by
    refine List.filter_congr fun entry mem => Bool.eq_iff_iff.2 ?_
    have listed (a : BitVec w) : (entry.2 != 0 && contains a entry.2) = true ↔
        entry.1 ∈ parts names a := by
      have both : entry ∈ within names a ↔ entry ∈ names ∧ entry.1 ∈ parts names a :=
        telling.mem_within_iff
      rw [within, List.mem_filter, and_congr_right_iff] at both
      exact both mem
    exact (listed a).trans (same ▸ (listed b).symm)
  have rests := same
  unfold parts at rests
  rw [named] at rests
  have rest : remainder names a = remainder names b := by
    have tails := List.append_cancel_left rests
    split_ifs at tails with left right right
    · exact left.trans right.symm
    · exact numeral_injective hex (List.singleton_inj.1 tails)
  rw [← cover_or_remainder names a, ← cover_or_remainder names b, named, rest]

theorem AreTelling.word_of_mem_parts (telling : AreTelling names empty)
    (listed : text ∈ parts names a) : ' ' ∉ text.toList ∧ '|' ∉ text.toList := by
  rcases mem_parts_iff.1 listed with ⟨entry, within, rfl⟩ | ⟨-, rfl⟩
  · obtain ⟨blank, bar, -⟩ := telling.2.1 entry (contains_of_mem_within within).1
    exact ⟨blank, bar⟩
  · exact ⟨not_mem_numeral (.inl rfl) _, not_mem_numeral (.inr rfl) _⟩

theorem AreTelling.empty_not_mem_parts (telling : AreTelling names empty) :
    empty ∉ parts names a := by
  obtain ⟨-, -, word, alone⟩ := telling
  intro listed
  rcases mem_parts_iff.1 listed with ⟨entry, within, same⟩ | ⟨-, numeral⟩
  · obtain ⟨mem, filled, -⟩ := contains_of_mem_within within
    exact filled (alone entry mem same)
  · exact word.ne_numeral _ numeral

/-- What a set is shown as: its parts, or the word for the empty set. -/
def shown (names : Names w) (empty : String) (a : BitVec w) : List String :=
  if a = 0 then [empty] else parts names a

theorem AreTelling.shown_injective (telling : AreTelling names empty) (hex : 4 ∣ w) :
    Function.Injective (shown names empty) := by
  intro a b same
  unfold shown at same
  split_ifs at same with left right right
  · exact left.trans right.symm
  · exact absurd (same ▸ List.mem_singleton_self empty) telling.empty_not_mem_parts
  · exact absurd (same ▸ List.mem_singleton_self empty) telling.empty_not_mem_parts
  · exact telling.parts_injective hex same

/-- Whichever separator stands between the parts, the text tells the set. -/
theorem AreTelling.join_injective (telling : AreTelling names empty) (hex : 4 ∣ w) {sep : String}
    (separates : sep.toList.head? = some ' ' ∨ sep.toList.head? = some '|') :
    Function.Injective fun a : BitVec w => Text.join sep (shown names empty a) := by
  have filled (a : BitVec w) : shown names empty a ≠ [] := by
    unfold shown
    split_ifs with none
    · exact List.cons_ne_nil _ _
    · exact fun nil => none (parts_eq_nil_iff.1 nil)
  have plain (a : BitVec w) (text : String) (mem : text ∈ shown names empty a) :
      ' ' ∉ text.toList ∧ '|' ∉ text.toList := by
    unfold shown at mem
    split_ifs at mem
    · obtain rfl := List.mem_singleton.1 mem
      exact ⟨telling.2.2.1.1, telling.2.2.1.2.1⟩
    · exact telling.word_of_mem_parts mem
  intro a b same
  apply telling.shown_injective hex
  rcases separates with blank | bar
  · exact Text.join_inj blank (filled a) (filled b) (fun text mem => (plain a text mem).1)
      (fun text mem => (plain b text mem).1) same
  · exact Text.join_inj bar (filled a) (filled b) (fun text mem => (plain a text mem).2)
      (fun text mem => (plain b text mem).2) same

theorem describe_eq (type : String) (names : Names w) (a : BitVec w) :
    describe type names a =
      type ++ "(" ++ Text.join " | " (shown names (emptyName names) a) ++ ")" := by
  unfold describe shown
  by_cases none : a = 0
  · rw [if_pos none, parts_eq_nil_iff.2 none]
    rfl
  · rw [if_neg none]
    cases listed : parts names a with
    | nil => exact absurd (parts_eq_nil_iff.1 listed) none
    | cons first rest => rfl

theorem AreTelling.describe_injective (telling : AreTelling names (emptyName names)) (hex : 4 ∣ w)
    (type : String) : Function.Injective (describe type names) := by
  intro a b same
  rw [describe_eq, describe_eq] at same
  have letters := congrArg String.toList same
  simp only [String.toList_append] at letters
  have joined := String.toList_inj.1 (List.append_cancel_left (List.append_cancel_right letters))
  exact telling.join_injective hex (.inl rfl) joined

end Bits

/-- No text loses bits: two replies with one text or one description, or two sets of flags with one
description, are the same. The constants a text lists are in the set, and they and the rest, which
has nothing in common with them, make up the set. -/
theorem texts_tell_bits :
    Function.Injective Reply.text ∧ Function.Injective Reply.describe ∧
    Function.Injective ListFlags.describe ∧ Function.Injective TransferFlags.describe ∧
    ∀ {w : Nat} (names : Bits.Names w) (a : BitVec w),
      (∀ entry ∈ Bits.within names a, entry ∈ names ∧ Bits.contains a entry.2 = true) ∧
      Bits.cover (Bits.within names a) ||| Bits.remainder names a = a ∧
      Bits.cover (Bits.within names a) &&& Bits.remainder names a = 0 := by
  have text (r : Reply) : r.text = Text.join "|" (Bits.shown Reply.bitNames "OK" r.bits) := by
    unfold Reply.text Bits.shown
    split_ifs <;> rfl
  have reply : Bits.AreTelling Reply.bitNames "OK" := by decide
  have replies : Bits.AreTelling Reply.names (Bits.emptyName Reply.names) := by decide
  have listing : Bits.AreTelling ListFlags.names (Bits.emptyName ListFlags.names) := by decide
  have transfer : Bits.AreTelling TransferFlags.names (Bits.emptyName TransferFlags.names) := by
    decide
  refine ⟨?_, ?_, ?_, ?_, fun names a => ⟨?_, ?_, ?_⟩⟩
  · intro r s same
    rw [text, text] at same
    cases r
    cases s
    exact congrArg Reply.mk (reply.join_injective (by decide) (.inr rfl) same)
  · rintro ⟨r⟩ ⟨s⟩ same
    exact congrArg Reply.mk (replies.describe_injective (by decide) "Reply" same)
  · rintro ⟨f⟩ ⟨g⟩ same
    exact congrArg ListFlags.mk (listing.describe_injective (by decide) "ListFlags" same)
  · rintro ⟨f⟩ ⟨g⟩ same
    exact congrArg TransferFlags.mk (transfer.describe_injective (by decide) "TransferFlags" same)
  · intro entry mem
    obtain ⟨known, -, inside⟩ := Bits.contains_of_mem_within mem
    exact ⟨known, inside⟩
  · exact Bits.cover_or_remainder names a
  · exact Bits.cover_and_remainder names a

end Courier
