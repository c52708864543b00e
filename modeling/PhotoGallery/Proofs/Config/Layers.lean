import PhotoGallery.Config.Basic
import PhotoGallery.Proofs.Stages
import PhotoGallery.Proofs.Toml.Grouping
import PhotoGallery.Proofs.Toml.Reading

/-!
# Configurations from layers

The layers of a configuration are merged before anything is read, but every field depends on
one layer alone: the last that has its key.  A layer with another key spoils them all, and a
value of another type spoils them unless a later layer covers it.  Only when every field can
be read does it matter whether something is missing.

The fields of the defaults are no tables, so overrides may be merged into a document before it
is laid over the defaults.
-/

namespace PhotoGallery

namespace Toml

/-- The value is a text, or a date or time with this text. -/
inductive Value.Spells : Value → String → Prop
  | text (content : String) : Spells (.text content) content
  | datetime (datetime : Datetime) : Spells (.datetime datetime) datetime.text

/-- The value lists values with these texts. -/
inductive Value.Lists : Value → List String → Prop
  | list {items : List Value} {texts : List String} (spelled : List.Forall₂ Spells items texts) :
      Lists (.list items) texts

theorem Value.Spells.unique {value : Value} {text other : String} (spells : value.Spells text)
    (again : value.Spells other) : text = other := by
  cases spells with
  | text => cases again; rfl
  | datetime => cases again; rfl

theorem Value.Lists.unique {value : Value} {texts others : List String} (lists : value.Lists texts)
    (again : value.Lists others) : texts = others := by
  obtain ⟨spelled⟩ := lists
  obtain ⟨otherSpelled⟩ := again
  have rightUnique : Relator.RightUnique Value.Spells := fun _ _ _ => Value.Spells.unique
  exact List.right_unique_forall₂' rightUnique spelled otherSpelled

theorem Value.Spells.of_alike {value other : Value} {text : String} (alike : value.Alike other) :
    value.Spells text ↔ other.Spells text := by
  cases alike with
  | same => rfl
  | tables entries others => exact iff_of_false (by rintro ⟨⟩) (by rintro ⟨⟩)

theorem Value.Lists.of_alike {value other : Value} {texts : List String}
    (alike : value.Alike other) : value.Lists texts ↔ other.Lists texts := by
  cases alike with
  | same => rfl
  | tables entries others => exact iff_of_false (by rintro ⟨⟩) (by rintro ⟨⟩)

end Toml

namespace Overrides

theorem isTable_toToml (overrides : Overrides) : overrides.toToml.IsTable := by
  obtain ⟨title, description⟩ := overrides
  refine .table (Toml.ordered_iff_keys.mpr ?_)
  cases title with
  | none =>
      cases description with
      | none => exact List.Pairwise.nil
      | some _ => exact List.pairwise_singleton _ _
  | some _ =>
      cases description with
      | none => exact List.pairwise_singleton _ _
      | some _ =>
          change ["description", "title"].Pairwise (· < ·)
          decide

theorem tidy_toToml (overrides : Overrides) : overrides.toToml.Tidy := by
  obtain ⟨ordered⟩ := overrides.isTable_toToml
  refine .table ordered fun entry member => .other ?_
  rcases List.mem_append.mp member with isDescription | isTitle
  · obtain ⟨text, -, rfl⟩ := Option.map_eq_some_iff.mp (Option.mem_toList.mp isDescription)
    simp
  · obtain ⟨text, -, rfl⟩ := Option.map_eq_some_iff.mp (Option.mem_toList.mp isTitle)
    simp

end Overrides

namespace Config

open Toml

variable {base : Value} {layers : List Value}

theorem isTable_toToml (config : Config) : config.toToml.IsTable := by
  refine .table (ordered_iff_keys.mpr ?_)
  change ["albums", "description", "title"].Pairwise (· < ·)
  decide

/-- The keys of the fields. -/
def fieldKeys : List String :=
  ["title", "description", "albums"]

/-- The field is what is found, or stays as it is if nothing is found. -/
def Holds {α : Type} (reads : Value → α → Prop) (found : Option Value) (old field : α) : Prop :=
  match found with
  | some value => reads value field
  | none => field = old

/-- A configuration with what is found under the keys of its fields, where no other keys are
found.  Other fields are those of an earlier configuration. -/
structure ReadFrom (found : String → Option Value) (old config : Config) : Prop where
  known : ∀ key, (found key).isSome = true → key ∈ fieldKeys
  title : Holds Value.Spells (found "title") old.title config.title
  description : Holds Value.Spells (found "description") old.description config.description
  albums : Holds Value.Lists (found "albums") old.albums config.albums

theorem textOf_eq_ok_iff {key text : String} {value : Value} :
    textOf key value = .ok text ↔ value.Spells text := by
  constructor
  · intro isOk
    cases value <;> simp only [textOf, Except.ok.injEq, reduceCtorEq] at isOk
    case text => exact isOk ▸ .text _
    case datetime => exact isOk ▸ .datetime _
  · rintro (content | datetime)
    · rfl
    · rfl

theorem textsOf_eq_ok_iff {key : String} {value : Value} {texts : List String} :
    textsOf key value = .ok texts ↔ value.Lists texts := by
  have items_iff (items : List Value) :
      items.mapM (textOf key) = .ok texts ↔ List.Forall₂ Value.Spells items texts := by
    simp only [mapM_eq_ok_iff, textOf_eq_ok_iff]
  constructor
  · intro isOk
    cases value <;> simp only [textsOf, reduceCtorEq] at isOk
    case list items => exact .list ((items_iff items).mp isOk)
  · rintro ⟨spelled⟩
    exact (items_iff _).mpr spelled

theorem set_eq_ok_iff {old next : Config} {key : String} {value : Value} :
    old.set key value = .ok next ↔
      (key = "title" ∧ ∃ text, value.Spells text ∧ { old with title := text } = next) ∨
      (key = "description" ∧ ∃ text, value.Spells text ∧ { old with description := text } = next) ∨
      (key = "albums" ∧ ∃ texts, value.Lists texts ∧ { old with albums := texts } = next) := by
  unfold set
  split
  next isTitle => simp [isTitle, bind_eq_ok_iff, textOf_eq_ok_iff, pure, Except.pure]
  next notTitle =>
    split
    next isDescription =>
      simp [isDescription, bind_eq_ok_iff, textOf_eq_ok_iff, pure, Except.pure]
    next notDescription =>
      split
      next isAlbums => simp [isAlbums, bind_eq_ok_iff, textsOf_eq_ok_iff, pure, Except.pure]
      next notAlbums => simp [notTitle, notDescription, notAlbums]

theorem readFrom_cons_iff {key : String} {value : Value} {later : List (String × Value)}
    (ordered : Ordered ((key, value) :: later)) (old config : Config) :
    ReadFrom (get? · ((key, value) :: later)) old config ↔
      ∃ next, old.set key value = .ok next ∧ ReadFrom (get? · later) next config := by
  have alone : get? key later = none := ordered.get?_head_eq_none
  have first : get? key ((key, value) :: later) = some value := if_pos rfl
  have others : ∀ other, key ≠ other →
      get? other ((key, value) :: later) = get? other later :=
    fun other different => if_neg different
  have known_iff : (∀ other, (get? other ((key, value) :: later)).isSome = true →
        other ∈ fieldKeys) ↔
      key ∈ fieldKeys ∧ ∀ other, (get? other later).isSome = true → other ∈ fieldKeys := by
    simp only [isSome_get?_iff, List.exists_mem_cons_iff, or_imp, forall_and, forall_eq']
  constructor
  · rintro ⟨known, title, description, albums⟩
    obtain ⟨isKnown, laterKnown⟩ := known_iff.mp known
    simp only [fieldKeys, List.mem_cons, List.not_mem_nil, or_false] at isKnown
    rcases isKnown with rfl | rfl | rfl
    · rw [first] at title
      rw [others _ (by decide)] at description albums
      exact ⟨{ old with title := config.title },
        set_eq_ok_iff.mpr (Or.inl ⟨rfl, _, title, rfl⟩),
        laterKnown, by rw [alone]; rfl, description, albums⟩
    · rw [first] at description
      rw [others _ (by decide)] at title albums
      exact ⟨{ old with description := config.description },
        set_eq_ok_iff.mpr (Or.inr (Or.inl ⟨rfl, _, description, rfl⟩)),
        laterKnown, title, by rw [alone]; rfl, albums⟩
    · rw [first] at albums
      rw [others _ (by decide)] at title description
      exact ⟨{ old with albums := config.albums },
        set_eq_ok_iff.mpr (Or.inr (Or.inr ⟨rfl, _, albums, rfl⟩)),
        laterKnown, title, description, by rw [alone]; rfl⟩
  · rintro ⟨next, isSet, laterKnown, title, description, albums⟩
    rcases set_eq_ok_iff.mp isSet with
      ⟨rfl, text, spelled, rfl⟩ | ⟨rfl, text, spelled, rfl⟩ | ⟨rfl, texts, listed, rfl⟩
    · rw [alone] at title
      exact ⟨known_iff.mpr ⟨by decide, laterKnown⟩, by rw [first]; exact title ▸ spelled,
        by rwa [others _ (by decide)], by rwa [others _ (by decide)]⟩
    · rw [alone] at description
      exact ⟨known_iff.mpr ⟨by decide, laterKnown⟩, by rwa [others _ (by decide)],
        by rw [first]; exact description ▸ spelled, by rwa [others _ (by decide)]⟩
    · rw [alone] at albums
      exact ⟨known_iff.mpr ⟨by decide, laterKnown⟩, by rwa [others _ (by decide)],
        by rwa [others _ (by decide)], by rw [first]; exact albums ▸ listed⟩

theorem foldlM_set_eq_ok_iff {entries : List (String × Value)} (ordered : Ordered entries)
    (old config : Config) :
    entries.foldlM (fun config entry => config.set entry.1 entry.2) old = .ok config ↔
      ReadFrom (get? · entries) old config := by
  induction entries generalizing old with
  | nil =>
      constructor
      · rintro ⟨⟩
        exact ⟨fun key isFound => absurd isFound Bool.false_ne_true, rfl, rfl, rfl⟩
      · rintro ⟨-, title, description, albums⟩
        obtain ⟨oldTitle, oldDescription, oldAlbums⟩ := old
        obtain ⟨newTitle, newDescription, newAlbums⟩ := config
        cases title
        cases description
        cases albums
        rfl
  | cons entry later ih =>
      obtain ⟨key, value⟩ := entry
      have laterOrdered : Ordered later := (List.pairwise_cons.mp ordered).2
      rw [List.foldlM_cons, bind_eq_ok_iff, readFrom_cons_iff ordered]
      simp only [ih laterOrdered]

theorem ofToml_eq_ok_iff {value : Value} (isTable : value.IsTable) (config : Config) :
    ofToml value = .ok config ↔ ReadFrom (value.get? ·) blank config := by
  cases isTable with
  | table ordered => exact foldlM_set_eq_ok_iff ordered blank config

theorem holds_text_iff {found other : Option Value} (alike : Option.Rel Value.Alike found other)
    (old text : String) :
    Holds Value.Spells found old text ↔ Holds Value.Spells other old text := by
  cases alike with
  | none => rfl
  | some alike => exact Value.Spells.of_alike alike

theorem holds_list_iff {found other : Option Value} (alike : Option.Rel Value.Alike found other)
    (old texts : List String) :
    Holds Value.Lists found old texts ↔ Holds Value.Lists other old texts := by
  cases alike with
  | none => rfl
  | some alike => exact Value.Lists.of_alike alike

/-- What is read from merged layers is what the last layer with each key holds. -/
theorem ofToml_mergeAll_eq_ok_iff (tables : ∀ layer ∈ base :: layers, layer.IsTable)
    (config : Config) :
    ofToml (mergeAll base layers) = .ok config ↔
      ReadFrom (effective? · base layers) blank config := by
  have alike := alike_get?_mergeAll tables
  have sameKeys := isSome_get?_mergeAll tables
  rw [ofToml_eq_ok_iff (isTable_mergeAll tables)]
  constructor
  · rintro ⟨known, title, description, albums⟩
    exact ⟨fun key isFound => known key ((sameKeys key).trans isFound),
      (holds_text_iff (alike _) _ _).mp title, (holds_text_iff (alike _) _ _).mp description,
      (holds_list_iff (alike _) _ _).mp albums⟩
  · rintro ⟨known, title, description, albums⟩
    exact ⟨fun key isFound => known key ((sameKeys key).symm.trans isFound),
      (holds_text_iff (alike _) _ _).mpr title, (holds_text_iff (alike _) _ _).mpr description,
      (holds_list_iff (alike _) _ _).mpr albums⟩

/-- The layers have no other keys than those of the fields, and what they finally hold has the
types of the fields. -/
structure Fits (base : Value) (layers : List Value) : Prop where
  known : ∀ layer ∈ base :: layers, ∀ key value, layer.get? key = some value → key ∈ fieldKeys
  title : ∀ value, effective? "title" base layers = some value → ∃ text, value.Spells text
  description : ∀ value, effective? "description" base layers = some value →
    ∃ text, value.Spells text
  albums : ∀ value, effective? "albums" base layers = some value → ∃ texts, value.Lists texts

/-- The layers finally hold a title that can be seen. -/
def Titled (base : Value) (layers : List Value) : Prop :=
  ∃ value text, effective? "title" base layers = some value ∧ value.Spells text ∧
    ∃ character ∈ text.toList, Text.isBlank character = false

/-- The layers finally hold some album file. -/
def Supplied (base : Value) (layers : List Value) : Prop :=
  ∃ value texts, effective? "albums" base layers = some value ∧ value.Lists texts ∧ texts ≠ []

theorem exists_holds_iff {α : Type} {reads : Value → α → Prop} {found : Option Value} {old : α} :
    (∃ field, Holds reads found old field) ↔
      ∀ value, found = some value → ∃ field, reads value field := by
  cases found with
  | none => simp [Holds]
  | some value => simp [Holds]

theorem fits_iff :
    Fits base layers ↔ ∃ config, ReadFrom (effective? · base layers) blank config := by
  have known_iff : (∀ layer ∈ base :: layers, ∀ key value, layer.get? key = some value →
        key ∈ fieldKeys) ↔
      ∀ key, (effective? key base layers).isSome = true → key ∈ fieldKeys := by
    constructor
    · intro known key isFound
      obtain ⟨layer, member, value, held⟩ := isSome_effective?_iff.mp isFound
      exact known layer member key value held
    · intro known layer member key value held
      exact known key (isSome_effective?_iff.mpr ⟨layer, member, value, held⟩)
  constructor
  · rintro ⟨known, titles, descriptions, albums⟩
    obtain ⟨title, isTitle⟩ := exists_holds_iff.mpr titles
    obtain ⟨description, isDescription⟩ := exists_holds_iff.mpr descriptions
    obtain ⟨files, areFiles⟩ := exists_holds_iff.mpr albums
    exact ⟨⟨title, description, files⟩, known_iff.mp known, isTitle, isDescription, areFiles⟩
  · rintro ⟨config, known, title, description, albums⟩
    exact ⟨known_iff.mpr known, exists_holds_iff.mp ⟨_, title⟩,
      exists_holds_iff.mp ⟨_, description⟩, exists_holds_iff.mp ⟨_, albums⟩⟩

namespace ReadFrom

variable {config : Config}

theorem titled_iff (read : ReadFrom (effective? · base layers) blank config) :
    Titled base layers ↔ Text.isAllBlank config.title = false := by
  have visible : Text.isAllBlank config.title = false ↔
      ∃ character ∈ config.title.toList, Text.isBlank character = false := by
    simp [Text.isAllBlank, List.all_eq_false]
  have title := read.title
  rw [visible, Titled]
  cases found : effective? "title" base layers with
  | none =>
      rw [found] at title
      have isEmpty : config.title = "" := title
      simp [isEmpty]
  | some value =>
      rw [found] at title
      constructor
      · rintro ⟨other, text, ⟨⟩, spelled, seen⟩
        exact spelled.unique title ▸ seen
      · intro seen
        exact ⟨value, config.title, rfl, title, seen⟩

theorem supplied_iff (read : ReadFrom (effective? · base layers) blank config) :
    Supplied base layers ↔ config.albums ≠ [] := by
  have albums := read.albums
  rw [Supplied]
  cases found : effective? "albums" base layers with
  | none =>
      rw [found] at albums
      have isEmpty : config.albums = [] := albums
      simp [isEmpty]
  | some value =>
      rw [found] at albums
      constructor
      · rintro ⟨other, texts, ⟨⟩, listed, nonempty⟩
        exact listed.unique albums ▸ nonempty
      · intro nonempty
        exact ⟨value, config.albums, rfl, albums, nonempty⟩

end ReadFrom

theorem resolve_of_read (tables : ∀ layer ∈ base :: layers, layer.IsTable) {config : Config}
    (read : ReadFrom (effective? · base layers) blank config) :
    resolve base layers = match config.gap? with
      | some gap => .error (.invalid gap)
      | none => .ok config := by
  rw [resolve, (ofToml_mergeAll_eq_ok_iff tables config).mpr read]
  cases missing : config.gap? <;> simp [validate, missing]

theorem exists_unfit (tables : ∀ layer ∈ base :: layers, layer.IsTable)
    (unfit : ¬ Fits base layers) : ∃ reason, resolve base layers = .error (.unfit reason) := by
  cases merged : ofToml (mergeAll base layers) with
  | error reason => exact ⟨reason, by rw [resolve, merged]⟩
  | ok config =>
      have read := (ofToml_mergeAll_eq_ok_iff tables config).mp merged
      exact absurd (fits_iff.mpr ⟨config, read⟩) unfit

/-- There are four outcomes, and what the layers finally hold decides between them. -/
theorem resolve_cases (tables : ∀ layer ∈ base :: layers, layer.IsTable) :
    (¬ Fits base layers ∧ ∃ reason, resolve base layers = .error (.unfit reason)) ∨
    (Fits base layers ∧ ¬ Titled base layers ∧ resolve base layers = .error (.invalid .title)) ∨
    (Fits base layers ∧ Titled base layers ∧ ¬ Supplied base layers ∧
      resolve base layers = .error (.invalid .albums)) ∨
    (Fits base layers ∧ Titled base layers ∧ Supplied base layers ∧
      ∃ config, ReadFrom (effective? · base layers) blank config ∧
        resolve base layers = .ok config) := by
  by_cases fits : Fits base layers
  case neg => exact Or.inl ⟨fits, exists_unfit tables fits⟩
  case pos =>
    refine Or.inr ?_
    obtain ⟨config, read⟩ := fits_iff.mp fits
    have outcome := resolve_of_read tables read
    by_cases titled : Titled base layers
    case neg =>
      have blankTitle : Text.isAllBlank config.title = true := by
        simpa using read.titled_iff.not.mp titled
      rw [gap?, if_pos blankTitle] at outcome
      exact Or.inl ⟨fits, titled, outcome⟩
    case pos =>
      refine Or.inr ?_
      have seen := read.titled_iff.mp titled
      rw [gap?, seen, if_neg Bool.false_ne_true] at outcome
      by_cases supplied : Supplied base layers
      case neg =>
        have noAlbums : config.albums = [] := by simpa using read.supplied_iff.not.mp supplied
        rw [if_pos noAlbums] at outcome
        exact Or.inl ⟨fits, titled, supplied, outcome⟩
      case pos =>
        rw [if_neg (read.supplied_iff.mp supplied)] at outcome
        exact Or.inr ⟨fits, titled, supplied, config, read, outcome⟩

theorem readFrom_of_resolve (tables : ∀ layer ∈ base :: layers, layer.IsTable) {config : Config}
    (isOk : resolve base layers = .ok config) :
    ReadFrom (effective? · base layers) blank config := by
  rcases resolve_cases tables with
    ⟨-, reason, outcome⟩ | ⟨-, -, outcome⟩ | ⟨-, -, -, outcome⟩ | ⟨-, -, -, other, read, outcome⟩
  all_goals rw [outcome] at isOk; cases isOk
  exact read

/-- Layers give a configuration exactly if all their keys are known, what they finally hold has
the right types, the title can be seen and there is some album file; the fields are what the
last layers with their keys hold.  A wrong key or type is reported first, then a missing title,
then missing album files. -/
theorem resolve_layers (tables : ∀ layer ∈ base :: layers, layer.IsTable) :
    ((∃ config, resolve base layers = .ok config) ↔
      Fits base layers ∧ Titled base layers ∧ Supplied base layers) ∧
    (∀ config, resolve base layers = .ok config →
      Holds Value.Spells (effective? "title" base layers) "" config.title ∧
        Holds Value.Spells (effective? "description" base layers) "" config.description ∧
          Holds Value.Lists (effective? "albums" base layers) [] config.albums) ∧
    ((∃ reason, resolve base layers = .error (.unfit reason)) ↔ ¬ Fits base layers) ∧
    (resolve base layers = .error (.invalid .title) ↔ Fits base layers ∧ ¬ Titled base layers) ∧
    (resolve base layers = .error (.invalid .albums) ↔
      Fits base layers ∧ Titled base layers ∧ ¬ Supplied base layers) ∧
    ∀ layer ∈ base :: layers, ∀ key value, layer.get? key = some value → key ∉ fieldKeys →
      ∃ reason, resolve base layers = .error (.unfit reason) := by
  have fields : ∀ config, resolve base layers = .ok config →
      Holds Value.Spells (effective? "title" base layers) "" config.title ∧
        Holds Value.Spells (effective? "description" base layers) "" config.description ∧
          Holds Value.Lists (effective? "albums" base layers) [] config.albums := by
    intro config isOk
    obtain ⟨-, title, description, albums⟩ := readFrom_of_resolve tables isOk
    exact ⟨title, description, albums⟩
  have unknown : ∀ layer ∈ base :: layers, ∀ key value, layer.get? key = some value →
      key ∉ fieldKeys → ∃ reason, resolve base layers = .error (.unfit reason) :=
    fun layer member key value held notField =>
      exists_unfit tables fun fits => notField (fits.known layer member key value held)
  rcases resolve_cases tables with ⟨unfit, reason, outcome⟩ | ⟨fits, untitled, outcome⟩ |
    ⟨fits, titled, unsupplied, outcome⟩ | ⟨fits, titled, supplied, config, read, outcome⟩
  · refine ⟨?_, fields, ?_, ?_, ?_, unknown⟩ <;> simp [outcome, unfit]
  · refine ⟨?_, fields, ?_, ?_, ?_, unknown⟩ <;> simp [outcome, fits, untitled]
  · refine ⟨?_, fields, ?_, ?_, ?_, unknown⟩ <;> simp [outcome, fits, titled, unsupplied]
  · refine ⟨?_, fields, ?_, ?_, ?_, unknown⟩ <;> simp [outcome, fits, titled, supplied]

/-- A title of the wrong type does no harm under an override, and does without. -/
theorem resolve_layers_overridden :
    let document : Value := .table [("albums", .list [.text "a.txt"]), ("title", .integer 3)]
    let overrides : Overrides := ⟨some "Jail", none⟩
    (∀ layer ∈ [blank.toToml, document, overrides.toToml], layer.IsTable) ∧
      (∃ config, resolve blank.toToml [document, overrides.toToml] = .ok config) ∧
      ∃ reason, resolve blank.toToml [document] = .error (.unfit reason) := by
  intro document overrides
  have isTable : document.IsTable := by
    refine .table (ordered_iff_keys.mpr ?_)
    change ["albums", "title"].Pairwise (· < ·)
    decide
  have fileTables : ∀ layer ∈ [blank.toToml, document], layer.IsTable := by
    simp [isTable_toToml, isTable]
  have tables : ∀ layer ∈ [blank.toToml, document, overrides.toToml], layer.IsTable := by
    simp [isTable_toToml, isTable, overrides.isTable_toToml]
  have title : effective? "title" blank.toToml [document, overrides.toToml] =
      some (.text "Jail") := by rfl
  have description : effective? "description" blank.toToml [document, overrides.toToml] =
      some (.text "") := by rfl
  have albums : effective? "albums" blank.toToml [document, overrides.toToml] =
      some (.list [.text "a.txt"]) := by rfl
  have files : Value.Lists (.list [.text "a.txt"]) ["a.txt"] :=
    .list (.cons (.text "a.txt") .nil)
  have known : ∀ layer ∈ [blank.toToml, document, overrides.toToml], ∀ key value,
      layer.get? key = some value → key ∈ fieldKeys := by
    intro layer member key value held
    have isFound : (layer.get? key).isSome = true := Option.isSome_iff_exists.mpr ⟨value, held⟩
    simp only [List.mem_cons, List.not_mem_nil, or_false] at member
    rcases member with rfl | rfl | rfl
    all_goals
      obtain ⟨entry, within, rfl⟩ := isSome_get?_iff.mp isFound
      revert entry
      simp [fieldKeys]
  have fits : Fits blank.toToml [document, overrides.toToml] := by
    refine ⟨known, ?_, ?_, ?_⟩
    · rw [title]
      rintro _ ⟨⟩
      exact ⟨_, .text _⟩
    · rw [description]
      rintro _ ⟨⟩
      exact ⟨_, .text _⟩
    · rw [albums]
      rintro _ ⟨⟩
      exact ⟨_, files⟩
  have titled : Titled blank.toToml [document, overrides.toToml] :=
    ⟨_, _, title, .text _, 'J', by decide, by decide⟩
  have supplied : Supplied blank.toToml [document, overrides.toToml] :=
    ⟨_, _, albums, files, by simp⟩
  refine ⟨tables, (resolve_layers tables).1.mpr ⟨fits, titled, supplied⟩, ?_⟩
  refine (resolve_layers fileTables).2.2.1.mpr fun fits => ?_
  obtain ⟨text, spelled⟩ := fits.title (.integer 3) rfl
  cases spelled

theorem ne_table_of_get?_toToml {config : Config} {key : String} {value : Value}
    (held : config.toToml.get? key = some value) : ∀ entries, value ≠ .table entries := by
  have member := mem_of_get? held
  simp only [List.mem_cons, List.not_mem_nil, or_false, Prod.mk.injEq] at member
  rcases member with ⟨-, rfl⟩ | ⟨-, rfl⟩ | ⟨-, rfl⟩ <;> simp

theorem tidy_toToml (config : Config) : config.toToml.Tidy := by
  obtain ⟨ordered⟩ := config.isTable_toToml
  exact .of_ordered ordered fun key value held => .other (ne_table_of_get?_toToml held)

/-- Overrides may be merged into the document of a file beforehand. -/
theorem resolve_merged_overrides {text : String} {document : Value}
    (parsed : parse? text = some document) (noDatetime : ∀ datetime, document ≠ .datetime datetime)
    (defaults : Config) (overrides : Overrides) :
    resolve defaults.toToml [merge document overrides.toToml] =
      resolve defaults.toToml [document, overrides.toToml] := by
  have free : ¬ Interrupted defaults.toToml document overrides.toToml := by
    intro interrupted
    rcases interrupted_iff.mp interrupted with
      ⟨-, notTable, -⟩ | ⟨key, lower, middle, upper, isLower, -, -, below⟩
    · rcases isTable_of_parse? parsed with ⟨⟨ordered⟩⟩ | ⟨datetime, isDatetime⟩
      · exact notTable _ rfl
      · exact noDatetime datetime isDatetime
    · obtain ⟨entries, lowerTable⟩ := below.exists_table
      exact ne_table_of_get?_toToml isLower entries lowerTable
  have grouped : mergeAll defaults.toToml [merge document overrides.toToml] =
      mergeAll defaults.toToml [document, overrides.toToml] :=
    (merge_assoc defaults.tidy_toToml (tidy_of_parse? parsed) overrides.tidy_toToml free).symm
  rw [resolve, grouped, resolve]

end Config

end PhotoGallery
