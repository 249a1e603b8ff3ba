import Courier.Settings.Draft
import Mathlib.Data.List.Induction
import Mathlib.Data.List.Sort

/-!
# What counts among the layers of settings

A source replaces what earlier ones set, and the defaults replace nothing. So whatever the order in
which sources are gathered, an option has the value of the last source other than the defaults that
sets it, the default value if there is none and the defaults were added at all, and no value
otherwise. Whoever reads the gathered options, as settings or for one option alone, reads these
values.
-/

namespace Courier.Settings

variable {sources others : List Source} {options : Options} {name : String} {value : Value}

/-! ## Options by their values -/

namespace Options

variable {strong weak : Options}

theorem mem_entries_iff (sorted : options.Sorted) :
    (name, value) ∈ options.entries ↔ options.get? name = some value := by
  obtain ⟨entries⟩ := options
  induction entries with
  | nil => simp [get?]
  | cons first rest ih =>
      obtain ⟨later, ordered⟩ := List.pairwise_cons.1 sorted
      have tail : (name, value) ∈ rest ↔ get? ⟨rest⟩ name = some value := ih ordered
      by_cases named : first.1 = name
      · have absent : (name, value) ∉ rest := by
          intro mem
          have above := later _ mem
          rw [named] at above
          exact String.lt_irrefl name above
        have found : get? ⟨first :: rest⟩ name = some first.2 := by simp [get?, named]
        rw [List.mem_cons, or_iff_left absent, found, Option.some_inj, Prod.ext_iff]
        exact ⟨fun same => same.2.symm, fun same => ⟨named.symm, same.symm⟩⟩
      · have passed : get? ⟨first :: rest⟩ name = get? ⟨rest⟩ name := by simp [get?, named]
        have other : (name, value) ≠ first := fun same => named (congrArg Prod.fst same).symm
        rw [List.mem_cons, or_iff_right other, passed, tail]

/-- Options in order are told apart by the values of names. -/
theorem ext_of_sorted (sorted : strong.Sorted) (sorted' : weak.Sorted)
    (same : ∀ name, strong.get? name = weak.get? name) : strong = weak := by
  have irrefl : Std.Irrefl fun a b : String × Value => a.1 < b.1 :=
    ⟨fun entry => String.lt_irrefl entry.1⟩
  have antisymm : Std.Antisymm fun a b : String × Value => a.1 < b.1 :=
    ⟨fun _ _ less more => absurd more (String.lt_asymm less)⟩
  have mem (entry : String × Value) : entry ∈ strong.entries ↔ entry ∈ weak.entries := by
    rw [mem_entries_iff sorted, mem_entries_iff sorted', same]
  have entries := List.Pairwise.eq_of_mem_iff sorted sorted' mem
  cases strong
  cases weak
  exact congrArg Options.mk entries

theorem sorted_empty : ({} : Options).Sorted := List.Pairwise.nil

theorem sorted_ofFields (fields : List (String × Value)) : (ofFields fields).Sorted := by
  have kept (options : Options) (sorted : options.Sorted) :
      (fields.foldl (fun options field => options.insert field.1 field.2) options).Sorted := by
    induction fields generalizing options with
    | nil => exact sorted
    | cons field rest ih => exact ih _ (sorted_insert sorted field.1 field.2)
  exact kept {} sorted_empty

theorem sorted_onto (sorted : weak.Sorted) : (strong.onto weak).Sorted := by
  unfold onto
  induction strong.entries with
  | nil => exact sorted
  | cons field rest ih => exact sorted_insert ih field.1 field.2

end Options

/-! ## The value that counts -/

namespace Source

def isDefaults : Source → Bool
  | defaults => true
  | _ => false

def IsReadable (source : Source) : Prop := ∃ options, source.options = .ok options

/-- The value that a source sets an option to. -/
def value? (source : Source) (name : String) : Option Value :=
  source.options.toOption.bind fun options => options.get? name

theorem value?_of_options {source : Source} (set : source.options = .ok options) (name : String) :
    source.value? name = options.get? name := by
  unfold value?
  rw [set]
  rfl

end Source

/-- The value of an option that counts: that of the last source other than the defaults that sets
it, else the default value where the defaults are among the sources. -/
def counting? (sources : List Source) (name : String) : Option Value :=
  let lasting := (sources.filter fun source => !source.isDefaults).reverse
  (lasting.findSome? fun source => source.value? name).or
    (if sources.any Source.isDefaults then Settings.default.options.get? name else none)

theorem counting?_defaults (sources : List Source) (name : String) :
    counting? (sources ++ [.defaults]) name =
      (counting? sources name).or (Settings.default.options.get? name) := by
  unfold counting?
  simp only [List.filter_append, List.any_append]
  cases sources.any Source.isDefaults <;> simp [Source.isDefaults, Option.or_assoc]

theorem counting?_append {source : Source} (replaces : source.isDefaults = false)
    (sources : List Source) (name : String) :
    counting? (sources ++ [source]) name =
      (source.value? name).or (counting? sources name) := by
  unfold counting?
  simp only [List.filter_append, List.any_append]
  cases set : source.value? name <;> simp [replaces, set]

namespace Layers

theorem gather_append (sources : List Source) (source : Source) :
    gather (sources ++ [source]) = (gather sources).add source := by
  unfold gather
  rw [List.foldl_append]
  rfl

/-- The defaults go below what is there. -/
theorem add_defaults (old : Options) :
    add (.ok old) .defaults = .ok (old.onto Settings.default.options) := rfl

/-- Any other source goes above it. -/
theorem add_of_options {source : Source} (replaces : source.isDefaults = false)
    (set : source.options = .ok options) (old : Options) :
    add (.ok old) source = .ok (options.onto old) := by
  unfold add
  rw [set]
  cases source with
  | defaults => cases replaces
  | _ => rfl

theorem add_missing (layers : Layers) : layers.add (.file none) = layers := by
  cases layers <;> rfl

/-- Everything that counts is gathered. -/
theorem gather_counting (readable : ∀ source ∈ sources, source.IsReadable) :
    ∃ merged, gather sources = .ok merged ∧ merged.Sorted ∧
      ∀ name, merged.get? name = counting? sources name := by
  induction sources using List.reverseRecOn with
  | nil => exact ⟨{}, rfl, Options.sorted_empty, fun _ => rfl⟩
  | append_singleton sources source ih =>
      obtain ⟨old, gathered, sorted, counts⟩ :=
        ih fun earlier mem => readable earlier (List.mem_append_left _ mem)
      obtain ⟨new, set⟩ := readable source (by simp)
      rw [gather_append, gathered]
      cases kind : source.isDefaults with
      | true =>
          obtain rfl : source = .defaults := by
            cases source <;> first | rfl | cases kind
          refine ⟨_, add_defaults old, Options.sorted_onto (Options.sorted_ofFields _), ?_⟩
          intro name
          rw [Options.get?_onto, counts, counting?_defaults]
      | false =>
          refine ⟨_, add_of_options kind set old, Options.sorted_onto sorted, ?_⟩
          intro name
          rw [Options.get?_onto, counts, counting?_append kind, Source.value?_of_options set]

/-- Where the defaults stand among the sources and how often does not matter, if they are there. -/
theorem gather_congr (readable : ∀ source ∈ sources, source.IsReadable)
    (lasting : others.filter (fun source => !source.isDefaults) =
      sources.filter fun source => !source.isDefaults)
    (defaults : others.any Source.isDefaults = sources.any Source.isDefaults) :
    gather others = gather sources := by
  have othersReadable : ∀ source ∈ others, source.IsReadable := by
    intro source mem
    cases kind : source.isDefaults with
    | true =>
        obtain rfl : source = .defaults := by
          cases source <;> first | rfl | cases kind
        exact ⟨_, rfl⟩
    | false =>
        have kept : source ∈ others.filter fun source => !source.isDefaults :=
          List.mem_filter.2 ⟨mem, by simp [kind]⟩
        rw [lasting] at kept
        exact readable source (List.mem_filter.1 kept).1
  obtain ⟨merged, gathered, sorted, counts⟩ := gather_counting readable
  obtain ⟨merged', gathered', sorted', counts'⟩ := gather_counting othersReadable
  have same : merged' = merged := by
    refine Options.ext_of_sorted sorted' sorted fun name => ?_
    rw [counts, counts']
    unfold counting?
    rw [lasting, defaults]
  rw [gathered, gathered', same]

end Layers

/-! ## Reading what counts -/

theorem bind_eq_ok_iff {ε α β : Type} {first : Except ε α} {rest : α → Except ε β} {result : β} :
    (first >>= rest) = .ok result ↔ ∃ a, first = .ok a ∧ rest a = .ok result := by
  cases first with
  | error cause => exact iff_of_false (fun ok => nomatch ok) fun ⟨_, ok, _⟩ => nomatch ok
  | ok a => exact ⟨fun ok => ⟨a, rfl, ok⟩, fun ⟨_, is, ok⟩ => Except.ok.inj is ▸ ok⟩

theorem mapError_eq_ok_iff {ε ε' α : Type} {first : Except ε α} {f : ε → ε'} {result : α} :
    first.mapError f = .ok result ↔ first = .ok result := by
  cases first with
  | error cause => exact iff_of_false (fun ok => nomatch ok) fun ok => nomatch ok
  | ok a => simp [Except.mapError]

theorem bind_pure_eq_ok_iff {ε α β : Type} {first : Except ε α} {rest : α → β} {result : β} :
    (first >>= fun a => pure (rest a)) = .ok result ↔ ∃ a, first = .ok a ∧ rest a = result := by
  cases first with
  | error cause => exact iff_of_false (fun ok => nomatch ok) fun ⟨_, ok, _⟩ => nomatch ok
  | ok a => exact ⟨fun ok => ⟨a, rfl, Except.ok.inj ok⟩, fun ⟨_, is, ok⟩ => ok ▸ is ▸ rfl⟩

/-- What the fields read so far are options of; the format of time is told apart from its name. -/
def Draft.shown? (draft : Draft) (name : String) : Option Value :=
  if name = "trace_level" then draft.traceLevel.map .text
  else if name = "cache_ttl" then draft.cacheTtl.map fun seconds => .int seconds.toNat
  else if name = "max_continue" then draft.maxContinue.map fun limit => .int limit.toNat
  else if name = "connect_retries" then draft.connectRetries.map fun count => .int count.toNat
  else if name = "retry_delay" then draft.retryDelay.map fun seconds => .int seconds.toNat
  else none

/-- All fields, read. -/
def Draft.ofSettings (settings : Settings) : Draft :=
  { traceLevel := some settings.traceLevel, timeFormat := some settings.timeFormat
    cacheTtl := some settings.cacheTtl, maxContinue := some settings.maxContinue
    connectRetries := some settings.connectRetries, retryDelay := some settings.retryDelay }

theorem get?_options (settings : Settings) (other : name ≠ "time_format") :
    settings.options.get? name = (Draft.ofSettings settings).shown? name := by
  unfold Settings.options Options.ofFields Draft.shown? Draft.ofSettings
  simp only [List.foldl_cons, List.foldl_nil, Options.get?_insert, Options.get?_empty]
  grind

namespace Draft

variable {draft next : Draft} {settings : Settings}

/-- An option that is read, and what it does to the fields read so far. -/
inductive Reads (draft : Draft) : String → Value → Draft → Prop
  | traceLevel (level : String) :
      Reads draft "trace_level" (.text level) { draft with traceLevel := some level }
  | timeFormat {text : String} {format : TimeFormat}
      (named : TimeFormat.ofString? text = some format) :
      Reads draft "time_format" (.text text) { draft with timeFormat := some format }
  | cacheTtl (seconds : UInt64) :
      Reads draft "cache_ttl" (.int seconds.toNat) { draft with cacheTtl := some seconds }
  | maxContinue (limit : UInt32) :
      Reads draft "max_continue" (.int limit.toNat) { draft with maxContinue := some limit }
  | connectRetries (count : UInt32) :
      Reads draft "connect_retries" (.int count.toNat) { draft with connectRetries := some count }
  | retryDelay (seconds : UInt64) :
      Reads draft "retry_delay" (.int seconds.toNat) { draft with retryDelay := some seconds }

theorem textOf_eq_ok_iff {text : String} : textOf name value = .ok text ↔ value = .text text := by
  cases value <;> simp [textOf]

theorem formatOf_eq_ok_iff {format : TimeFormat} :
    formatOf name value = .ok format ↔
      ∃ text, value = .text text ∧ TimeFormat.ofString? text = some format := by
  unfold formatOf
  rw [bind_eq_ok_iff]
  refine exists_congr fun text => and_congr textOf_eq_ok_iff ?_
  cases TimeFormat.ofString? text with
  | none => simp [throw, throwThe, MonadExceptOf.throw]
  | some other => simp [pure, Except.pure]

theorem natOf_eq_ok_iff {size n : Nat} :
    natOf size name value = .ok n ↔ value = .int n ∧ n < size := by
  unfold natOf
  cases value with
  | int i =>
      simp only
      split <;> grind
  | _ => simp

theorem natOf_uint64 {n : Nat} (read : natOf UInt64.size name value = .ok n) :
    value = .int (UInt64.ofNat n).toNat := by
  obtain ⟨is, small⟩ := natOf_eq_ok_iff.1 read
  rw [is, UInt64.toNat_ofNat_of_lt' small]

theorem natOf_uint32 {n : Nat} (read : natOf UInt32.size name value = .ok n) :
    value = .int (UInt32.ofNat n).toNat := by
  obtain ⟨is, small⟩ := natOf_eq_ok_iff.1 read
  rw [is, UInt32.toNat_ofNat_of_lt' small]

theorem reads_of_read (read : draft.read (name, value) = .ok next) :
    Reads draft name value next := by
  simp only [Draft.read] at read
  split_ifs at read with level format ttl limit retries delay
  · obtain ⟨text, is, rfl⟩ := bind_pure_eq_ok_iff.1 read
    rw [level, textOf_eq_ok_iff.1 is]
    exact .traceLevel text
  · obtain ⟨format, is, rfl⟩ := bind_pure_eq_ok_iff.1 read
    obtain ⟨text, rfl, named⟩ := formatOf_eq_ok_iff.1 is
    rw [‹name = "time_format"›]
    exact .timeFormat named
  · obtain ⟨n, is, rfl⟩ := bind_pure_eq_ok_iff.1 read
    rw [ttl, natOf_uint64 is]
    exact .cacheTtl _
  · obtain ⟨n, is, rfl⟩ := bind_pure_eq_ok_iff.1 read
    rw [limit, natOf_uint32 is]
    exact .maxContinue _
  · obtain ⟨n, is, rfl⟩ := bind_pure_eq_ok_iff.1 read
    rw [retries, natOf_uint32 is]
    exact .connectRetries _
  · obtain ⟨n, is, rfl⟩ := bind_pure_eq_ok_iff.1 read
    rw [delay, natOf_uint64 is]
    exact .retryDelay _

theorem Reads.read (reads : Reads draft name value next) :
    draft.read (name, value) = .ok next := by
  cases reads with
  | traceLevel level => rfl
  | timeFormat named =>
      refine bind_pure_eq_ok_iff.2 ⟨_, formatOf_eq_ok_iff.2 ⟨_, rfl, named⟩, rfl⟩
  | cacheTtl seconds =>
      exact bind_pure_eq_ok_iff.2
        ⟨_, natOf_eq_ok_iff.2 ⟨rfl, seconds.toNat_lt_size⟩, by rw [UInt64.ofNat_toNat]⟩
  | maxContinue limit =>
      exact bind_pure_eq_ok_iff.2
        ⟨_, natOf_eq_ok_iff.2 ⟨rfl, limit.toNat_lt_size⟩, by rw [UInt32.ofNat_toNat]⟩
  | connectRetries count =>
      exact bind_pure_eq_ok_iff.2
        ⟨_, natOf_eq_ok_iff.2 ⟨rfl, count.toNat_lt_size⟩, by rw [UInt32.ofNat_toNat]⟩
  | retryDelay seconds =>
      exact bind_pure_eq_ok_iff.2
        ⟨_, natOf_eq_ok_iff.2 ⟨rfl, seconds.toNat_lt_size⟩, by rw [UInt64.ofNat_toNat]⟩

/-- The fields read so far are read from these values, and from nothing else. -/
structure Holds (draft : Draft) (value? : String → Option Value) : Prop where
  shown : ∀ name, name ≠ "time_format" → value? name = draft.shown? name
  format : (value? "time_format").map (formatOf "time_format") = draft.timeFormat.map .ok

theorem holds_empty : Holds {} fun _ => none where
  shown name _ := by
    unfold shown?
    split_ifs <;> rfl
  format := rfl

/-- Reading one more option. -/
theorem Holds.reads {value? : String → Option Value} (holds : draft.Holds value?)
    (reads : Reads draft name value next) :
    next.Holds (Function.update value? name (some value)) := by
  obtain ⟨shown, format⟩ := holds
  cases reads with
  | timeFormat named =>
      refine ⟨fun other ne => ?_, ?_⟩
      · rw [Function.update_of_ne ne, shown other ne]
        rfl
      · rw [Function.update_self]
        exact congrArg some (formatOf_eq_ok_iff.2 ⟨_, rfl, named⟩)
  | _ =>
      refine ⟨fun other ne => ?_, ?_⟩
      · unfold shown? at shown ⊢
        grind [Function.update_apply]
      · rw [Function.update_of_ne (by decide)]
        exact format

/-- Reading all options. The induction is on the options with the last of them apart, which no
earlier one is named like. -/
theorem holds_of_foldlM {entries : List (String × Value)}
    (sorted : Options.Sorted ⟨entries⟩) (read : entries.foldlM Draft.read {} = .ok draft) :
    draft.Holds (Options.get? ⟨entries⟩) := by
  induction entries using List.reverseRecOn generalizing draft with
  | nil =>
      obtain rfl := Except.ok.inj read
      exact holds_empty
  | append_singleton entries entry ih =>
      obtain ⟨name, value⟩ := entry
      obtain ⟨before, -, apart⟩ := List.pairwise_append.1 sorted
      rw [List.foldlM_append] at read
      obtain ⟨earlier, readBefore, last⟩ := bind_eq_ok_iff.1 read
      simp only [List.foldlM_cons, List.foldlM_nil, bind_pure] at last
      have values : Options.get? ⟨entries ++ [(name, value)]⟩ =
          Function.update (Options.get? ⟨entries⟩) name (some value) := by
        funext other
        by_cases same : other = name
        · subst same
          have absent : entries.find? (fun entry => entry.1 == other) = none := by
            refine List.find?_eq_none.2 fun earlier mem named => ?_
            have below := apart earlier mem _ (List.mem_singleton_self _)
            rw [beq_iff_eq.1 named] at below
            exact String.lt_irrefl other below
          simp [Options.get?, List.find?_append, absent]
        · rw [Function.update_of_ne same]
          simp [Options.get?, List.find?_append, Ne.symm same]
      rw [values]
      exact (ih before readBefore).reads (reads_of_read last)

theorem exists_foldlM {entries : List (String × Value)}
    (readable : ∀ entry ∈ entries, ∀ draft : Draft, ∃ next, draft.read entry = .ok next)
    (draft : Draft) : ∃ last, entries.foldlM Draft.read draft = .ok last := by
  induction entries generalizing draft with
  | nil => exact ⟨draft, rfl⟩
  | cons entry rest ih =>
      obtain ⟨first, others⟩ := List.forall_mem_cons.1 readable
      obtain ⟨next, read⟩ := first draft
      obtain ⟨last, readRest⟩ := ih others next
      refine ⟨last, ?_⟩
      rw [List.foldlM_cons]
      exact bind_eq_ok_iff.2 ⟨next, read, readRest⟩

theorem need_eq_ok_iff {α : Type} {field : Option α} {a : α} :
    need name field = .ok a ↔ field = some a := by
  cases field <;> simp [need]

theorem complete_eq_ok_iff : draft.complete = .ok settings ↔ draft = ofSettings settings := by
  constructor
  · intro complete
    unfold Draft.complete at complete
    obtain ⟨traceLevel, readLevel, complete⟩ := bind_eq_ok_iff.1 complete
    obtain ⟨timeFormat, readFormat, complete⟩ := bind_eq_ok_iff.1 complete
    obtain ⟨cacheTtl, readTtl, complete⟩ := bind_eq_ok_iff.1 complete
    obtain ⟨maxContinue, readLimit, complete⟩ := bind_eq_ok_iff.1 complete
    obtain ⟨connectRetries, readRetries, complete⟩ := bind_eq_ok_iff.1 complete
    obtain ⟨retryDelay, readDelay, complete⟩ := bind_eq_ok_iff.1 complete
    obtain rfl := Except.ok.inj complete
    rw [need_eq_ok_iff] at readLevel readFormat readTtl readLimit readRetries readDelay
    cases draft
    simp_all [ofSettings]
  · rintro rfl
    rfl

/-- The options of settings are read whatever else was read. -/
theorem exists_read_of_options (of : settings.options.get? name = some value)
    (other : name ≠ "time_format") (draft : Draft) :
    ∃ next, draft.read (name, value) = .ok next := by
  rw [get?_options settings other] at of
  unfold shown? ofSettings at of
  split_ifs at of with level ttl limit retries delay
  · obtain rfl := Option.some.inj of
    exact level ▸ ⟨_, (Reads.traceLevel _).read⟩
  · obtain rfl := Option.some.inj of
    exact ttl ▸ ⟨_, (Reads.cacheTtl _).read⟩
  · obtain rfl := Option.some.inj of
    exact limit ▸ ⟨_, (Reads.maxContinue _).read⟩
  · obtain rfl := Option.some.inj of
    exact retries ▸ ⟨_, (Reads.connectRetries _).read⟩
  · obtain rfl := Option.some.inj of
    exact delay ▸ ⟨_, (Reads.retryDelay _).read⟩

theorem int_uint64_injective : Function.Injective fun n : UInt64 => Value.int n.toNat :=
  fun _ _ same => UInt64.toNat_inj.1 (Int.ofNat.inj (Value.int.inj same))

theorem int_uint32_injective : Function.Injective fun n : UInt32 => Value.int n.toNat :=
  fun _ _ same => UInt32.toNat_inj.1 (Int.ofNat.inj (Value.int.inj same))

/-- What was read agrees with settings just where it is all of them. -/
theorem Holds.eq_ofSettings {value? : String → Option Value} (holds : draft.Holds value?)
    (plain : ∀ name, name ≠ "time_format" → value? name = settings.options.get? name)
    (format : ∃ text, value? "time_format" = some (.text text) ∧
      TimeFormat.ofString? text = some settings.timeFormat) :
    draft = ofSettings settings := by
  have shown (name : String) (other : name ≠ "time_format") :
      draft.shown? name = (ofSettings settings).shown? name := by
    rw [← holds.shown name other, plain name other, get?_options settings other]
  have timeFormat : draft.timeFormat = some settings.timeFormat := by
    obtain ⟨text, set, named⟩ := format
    have read := holds.format
    rw [set, Option.map_some, formatOf_eq_ok_iff.2 ⟨text, rfl, named⟩] at read
    obtain ⟨format, is, same⟩ := Option.map_eq_some_iff.1 read.symm
    exact is.trans (congrArg some (Except.ok.inj same))
  have traceLevel : draft.traceLevel = some settings.traceLevel :=
    Option.map_injective (fun _ _ => Value.text.inj) (shown "trace_level" (by decide))
  have cacheTtl : draft.cacheTtl = some settings.cacheTtl :=
    Option.map_injective int_uint64_injective (shown "cache_ttl" (by decide))
  have maxContinue : draft.maxContinue = some settings.maxContinue :=
    Option.map_injective int_uint32_injective (shown "max_continue" (by decide))
  have connectRetries : draft.connectRetries = some settings.connectRetries :=
    Option.map_injective int_uint32_injective (shown "connect_retries" (by decide))
  have retryDelay : draft.retryDelay = some settings.retryDelay :=
    Option.map_injective int_uint64_injective (shown "retry_delay" (by decide))
  cases draft
  cases traceLevel
  cases timeFormat
  cases cacheTtl
  cases maxContinue
  cases connectRetries
  cases retryDelay
  rfl

end Draft

namespace Layers

/-- Settings are read just where their options are what is gathered. -/
theorem settings_eq_ok_iff {settings : Settings} (sorted : options.Sorted) :
    Layers.settings (.ok options) = .ok settings ↔
      (∀ name, name ≠ "time_format" → options.get? name = settings.options.get? name) ∧
      (∃ text, options.get? "time_format" = some (.text text) ∧
        TimeFormat.ofString? text = some settings.timeFormat) ∧
      settings.validate = .ok () := by
  have read_iff : Layers.settings (.ok options) = .ok settings ↔
      options.entries.foldlM Draft.read {} = .ok (.ofSettings settings) ∧
        settings.validate = .ok () := by
    unfold Layers.settings
    dsimp only
    constructor
    · intro ok
      obtain ⟨found, fits, checked⟩ := bind_eq_ok_iff.1 ok
      obtain ⟨⟨⟩, valid, rfl⟩ := bind_pure_eq_ok_iff.1 checked
      obtain ⟨gathered, is, fits⟩ := bind_eq_ok_iff.1 (mapError_eq_ok_iff.1 fits)
      obtain rfl : options = gathered := Except.ok.inj is
      obtain ⟨draft, read, complete⟩ := bind_eq_ok_iff.1 fits
      obtain rfl := Draft.complete_eq_ok_iff.1 complete
      exact ⟨read, mapError_eq_ok_iff.1 valid⟩
    · rintro ⟨read, valid⟩
      refine bind_eq_ok_iff.2 ⟨settings, mapError_eq_ok_iff.2 ?_, ?_⟩
      · exact bind_eq_ok_iff.2 ⟨options, rfl, bind_eq_ok_iff.2 ⟨_, read, rfl⟩⟩
      · exact bind_pure_eq_ok_iff.2 ⟨(), mapError_eq_ok_iff.2 valid, rfl⟩
  rw [read_iff, ← and_assoc]
  refine and_congr_left fun _ => ?_
  constructor
  · intro read
    have holds := Draft.holds_of_foldlM sorted read
    refine ⟨fun name other => ?_, ?_⟩
    · rw [get?_options settings other]
      exact holds.shown name other
    · obtain ⟨value, set, format⟩ := Option.map_eq_some_iff.1 holds.format
      obtain ⟨text, rfl, named⟩ := Draft.formatOf_eq_ok_iff.1 format
      exact ⟨text, set, named⟩
  · rintro ⟨plain, format⟩
    have readable : ∀ entry ∈ options.entries, ∀ draft : Draft,
        ∃ next, draft.read entry = .ok next := by
      rintro ⟨name, value⟩ mem draft
      have set := (Options.mem_entries_iff sorted).1 mem
      by_cases other : name = "time_format"
      · obtain ⟨text, is, named⟩ := format
        subst other
        obtain rfl := Option.some.inj (set.symm.trans is)
        exact ⟨_, (Draft.Reads.timeFormat named).read⟩
      · rw [plain name other] at set
        exact Draft.exists_read_of_options set other draft
    obtain ⟨draft, read⟩ := Draft.exists_foldlM readable {}
    rw [read, (Draft.holds_of_foldlM sorted read).eq_ofSettings plain format]

theorem cacheTtl_eq_ok_iff {seconds : UInt64} :
    Layers.cacheTtl (.ok options) = .ok seconds ↔
      options.get? "cache_ttl" = some (.int seconds.toNat) := by
  unfold Layers.cacheTtl
  constructor
  · intro read
    obtain ⟨gathered, is, read⟩ := bind_eq_ok_iff.1 read
    obtain rfl : options = gathered := Except.ok.inj is
    obtain ⟨value, set, read⟩ := bind_eq_ok_iff.1 read
    obtain ⟨n, number, rfl⟩ := bind_pure_eq_ok_iff.1 read
    rw [Draft.need_eq_ok_iff.1 set, Draft.natOf_uint64 number]
  · intro set
    refine bind_eq_ok_iff.2 ⟨options, rfl, bind_eq_ok_iff.2 ⟨_, Draft.need_eq_ok_iff.2 set, ?_⟩⟩
    refine bind_pure_eq_ok_iff.2 ⟨_, Draft.natOf_eq_ok_iff.2 ⟨rfl, ?_⟩, UInt64.ofNat_toNat⟩
    exact seconds.toNat_lt_size

/-- Gathering sources settles what each option is: its value is that of the last source other than
the defaults that sets it, else the default where the defaults were added at all, else none. Where
and how often they were added does not matter, a missing file changes nothing, and whoever reads
the gathered options reads these values: the settings are found just where they have them as
options and are valid, and the age limit alone just where it is the value that counts. -/
theorem last_source_counts (sources : List Source)
    (readable : ∀ source ∈ sources, source.IsReadable) :
    (∃ merged, gather sources = .ok merged ∧
      ∀ name, merged.get? name = counting? sources name) ∧
    (∀ others : List Source,
      others.filter (fun source => !source.isDefaults) =
        sources.filter (fun source => !source.isDefaults) →
      others.any Source.isDefaults = sources.any Source.isDefaults →
      gather others = gather sources) ∧
    (∀ before after, sources = before ++ .file none :: after →
      gather (before ++ after) = gather sources) ∧
    (∀ settings, (gather sources).settings = .ok settings ↔
      (∀ name, name ≠ "time_format" →
        counting? sources name = settings.options.get? name) ∧
      (∃ text, counting? sources "time_format" = some (.text text) ∧
        TimeFormat.ofString? text = some settings.timeFormat) ∧
      settings.validate = .ok ()) ∧
    ∀ seconds, (gather sources).cacheTtl = .ok seconds ↔
      counting? sources "cache_ttl" = some (.int seconds.toNat) := by
  obtain ⟨merged, gathered, sorted, counts⟩ := gather_counting readable
  refine ⟨⟨merged, gathered, counts⟩, fun others => gather_congr readable, ?_, ?_, ?_⟩
  · rintro before after rfl
    unfold gather
    rw [List.foldl_append, List.foldl_append, List.foldl_cons, add_missing]
  · intro settings
    rw [gathered, settings_eq_ok_iff sorted]
    simp only [counts]
  · intro seconds
    rw [gathered, cacheTtl_eq_ok_iff, counts]

/-- The defaults come late and twice, after an option that is set twice. -/
theorem last_source_counts_defaults_late :
    let given : Source := .record (.dict [("cache_ttl", .int 7), ("retry_delay", .int 0)])
    let again : Source := .record (.dict [("cache_ttl", .int 30)])
    (∀ source ∈ [given, .file none, .defaults, again, .defaults], source.IsReadable) ∧
      (gather [given, .file none, .defaults, again, .defaults]).cacheTtl = .ok 30 ∧
      gather [given, .file none, .defaults, again, .defaults] =
        gather [.defaults, given, .file none, again] := by
  intro given again
  have readable :
      ∀ source ∈ [given, .file none, .defaults, again, .defaults], source.IsReadable := by
    simp only [List.forall_mem_cons, List.not_mem_nil, false_implies, implies_true, and_true]
    exact ⟨⟨_, rfl⟩, ⟨_, rfl⟩, ⟨_, rfl⟩, ⟨_, rfl⟩, ⟨_, rfl⟩⟩
  obtain ⟨-, rearranged, -, -, ttl⟩ := last_source_counts _ readable
  refine ⟨readable, (ttl 30).2 rfl, ?_⟩
  exact (rearranged [.defaults, given, .file none, again] rfl rfl).symm

end Layers

end Courier.Settings
