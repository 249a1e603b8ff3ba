import Courier.Local.Disk
import Courier.Settings.Basic
import Courier.Settings.Variable
import Courier.Toml.Document

/-!
# Layers of settings

Options are gathered from several sources, one after another. What a later source sets replaces
what an earlier one set; only the defaults, whenever they are added, fill the gaps and replace
nothing. A source that cannot be read spoils everything gathered.
-/

namespace Courier.Settings

/-! ## Options by name -/

/-- Values by option name, in the order of the names. -/
structure Options where
  entries : List (String × Value) := []

namespace Options

def get? (options : Options) (name : String) : Option Value :=
  (options.entries.find? fun entry => entry.1 == name).map Prod.snd

/-- Puts an entry in its place among entries in the order of their names, or in place of the one
of its name. -/
def insertEntry (name : String) (value : Value) : List (String × Value) → List (String × Value)
  | [] => [(name, value)]
  | (other, held) :: rest =>
    if other = name then (name, value) :: rest
    else if name < other then (name, value) :: (other, held) :: rest
    else (other, held) :: insertEntry name value rest

def insert (options : Options) (name : String) (value : Value) : Options :=
  ⟨insertEntry name value options.entries⟩

/-- All fields; of two of one name the later counts. -/
def ofFields (fields : List (String × Value)) : Options :=
  fields.foldl (fun options field => options.insert field.1 field.2) {}

/-- Everything that `strong` or `weak` sets; what both set is taken from `strong`. -/
def onto (strong weak : Options) : Options :=
  strong.entries.foldr (fun field options => options.insert field.1 field.2) weak

/-- The names come in order, each once. -/
def Sorted (options : Options) : Prop := options.entries.Pairwise fun a b => a.1 < b.1

theorem mem_insertEntry {name : String} {value : Value} {entries : List (String × Value)}
    {entry : String × Value} (h : entry ∈ insertEntry name value entries) :
    entry = (name, value) ∨ entry ∈ entries := by
  induction entries with
  | nil => simpa [insertEntry] using h
  | cons first rest ih =>
    unfold insertEntry at h
    split at h
    · rcases List.mem_cons.1 h with h | h <;> simp [h]
    · split at h
      · rcases List.mem_cons.1 h with h | h
        · exact .inl h
        · exact .inr h
      · rcases List.mem_cons.1 h with h | h
        · simp [h]
        · rcases ih h with h | h <;> simp [h]

theorem sorted_insert {options : Options} (h : options.Sorted) (name : String) (value : Value) :
    (options.insert name value).Sorted := by
  obtain ⟨entries⟩ := options
  simp only [Sorted, insert] at h ⊢
  induction entries with
  | nil => simp [insertEntry]
  | cons first rest ih =>
    obtain ⟨other, held⟩ := first
    obtain ⟨hfirst, hrest⟩ := List.pairwise_cons.1 h
    unfold insertEntry
    split
    · rename_i heq
      exact List.pairwise_cons.2 ⟨fun entry hentry => heq ▸ hfirst entry hentry, hrest⟩
    · rename_i hne
      split
      · rename_i hlt
        refine List.pairwise_cons.2 ⟨fun entry hentry => ?_, h⟩
        rcases List.mem_cons.1 hentry with rfl | hentry
        · exact hlt
        · exact String.lt_trans hlt (hfirst entry hentry)
      · rename_i hle
        refine List.pairwise_cons.2 ⟨fun entry hentry => ?_, ih hrest⟩
        rcases mem_insertEntry hentry with rfl | hentry
        · refine Classical.byContradiction fun hge => hne ?_
          exact String.le_antisymm (String.not_lt.1 hle) (String.not_lt.1 hge)
        · exact hfirst entry hentry

@[simp]
theorem get?_empty (name : String) : ({} : Options).get? name = none := rfl

theorem get?_insert (options : Options) (name other : String) (value : Value) :
    (options.insert name value).get? other =
      if name = other then some value else options.get? other := by
  obtain ⟨entries⟩ := options
  simp only [get?, insert]
  induction entries with
  | nil => by_cases h : name = other <;> simp [insertEntry, h]
  | cons entry rest ih =>
    obtain ⟨first, held⟩ := entry
    by_cases hfirst : first = name
    · rw [insertEntry, if_pos hfirst]
      subst hfirst
      by_cases h : first = other <;> simp [h]
    · rw [insertEntry, if_neg hfirst]
      by_cases hlt : name < first
      · rw [if_pos hlt]
        by_cases h : name = other <;> simp [h]
      · rw [if_neg hlt]
        by_cases h : first = other
        · have hne : name ≠ other := fun hn => hfirst (h.trans hn.symm)
          simp [h, hne]
        · simpa [h] using ih

theorem get?_onto (strong weak : Options) (name : String) :
    (strong.onto weak).get? name = (strong.get? name).or (weak.get? name) := by
  obtain ⟨entries⟩ := strong
  simp only [onto]
  induction entries with
  | nil => simp [get?]
  | cons field rest ih =>
    rw [List.foldr_cons, get?_insert, ih]
    by_cases h : field.1 = name <;> simp [get?, h]

end Options

/-- Settings by the names of their options. -/
def options (settings : Settings) : Options :=
  .ofFields
    [("trace_level", .text settings.traceLevel),
     ("time_format", .text settings.timeFormat.text),
     ("cache_ttl", .int settings.cacheTtl.toNat),
     ("max_continue", .int settings.maxContinue.toNat),
     ("connect_retries", .int settings.connectRetries.toNat),
     ("retry_delay", .int settings.retryDelay.toNat)]

/-! ## Sources -/

/-- Why a source cannot be read. -/
inductive Unreadable where
  /-- A file that is no text, or not in the format of settings files. -/
  | malformedFile
  /-- A record that has no fields. -/
  | notRecord
deriving DecidableEq

inductive Source where
  | defaults
  | environment (vars : List (String × String))
  /-- A file, or nothing if it does not exist. -/
  | file (content : Option Local.Bytes)
  | record (value : Value)

/-- The options that a source sets. A missing file sets none. -/
def Source.options : Source → Except Unreadable Options
  | defaults => .ok Settings.default.options
  | environment vars => .ok (.ofFields (fieldsOfEnvironment vars))
  | file none => .ok {}
  | file (some content) =>
    match (String.fromUTF8? ⟨content.toArray⟩).bind Toml.Document.read? with
    | some fields => .ok (.ofFields fields)
    | none => .error .malformedFile
  | record (.dict fields) => .ok (.ofFields fields)
  | record _ => .error .notRecord

/-- What was gathered so far, or why it is spoilt. -/
abbrev Layers := Except Unreadable Options

namespace Layers

/-- Adds a source. Of two that cannot be read the later is remembered. -/
def add (layers : Layers) (source : Source) : Layers :=
  match source.options, layers with
  | .error cause, _ => .error cause
  | .ok _, .error cause => .error cause
  | .ok new, .ok old =>
    match source with
    | .defaults => .ok (old.onto new)
    | _ => .ok (new.onto old)

def gather (sources : List Source) : Layers := sources.foldl add (.ok {})

/-- The usual sources, with increasing priority: the defaults, a file if one is named, and the
environment. -/
def usual (file : Option (Option Local.Bytes)) (vars : List (String × String)) :
    List Source :=
  .defaults :: (file.toList.map .file ++ [.environment vars])

end Layers

end Courier.Settings
