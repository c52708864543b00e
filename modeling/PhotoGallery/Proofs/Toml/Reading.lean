import PhotoGallery.Proofs.Toml.KeyPath
import PhotoGallery.Toml.Document

/-!
# Documents are tidy

While a document is read its tables list their entries in the order of their appearance.  They
become values only in the end, and are sorted then.  So no table that a key path leads to is
out of order in a document, if the parts that are read as values are no tables.
-/

namespace PhotoGallery.Toml

/-- Where key paths lead, values that were read in one piece are no tables. -/
inductive Node.Sound : Node → Prop
  | leaf {value : Value} (notTable : ∀ entries, value ≠ .table entries) : Sound (.leaf value)
  | list (items : List Node) : Sound (.list items)
  | table (origin : Origin) {entries : Entries} (below : ∀ entry ∈ entries, entry.2.Sound) :
      Sound (.table origin entries)
  | tables (elements : List Node) : Sound (.tables elements)

def AllSound (entries : Entries) : Prop :=
  ∀ entry ∈ entries, entry.2.Sound

namespace AllSound

variable {entries result : Entries} {key : String} {node : Node} {path : List String}

theorem nil : AllSound [] := by
  simp [AllSound]

theorem append_singleton (allSound : AllSound entries) (sound : node.Sound) :
    AllSound (entries ++ [(key, node)]) := by
  intro entry member
  rcases List.mem_append.mp member with before | added
  · exact allSound entry before
  · rw [List.mem_singleton.mp added]
    exact sound

theorem replace (allSound : AllSound entries) (sound : node.Sound) :
    AllSound (replace key node entries) := by
  intro entry member
  obtain ⟨old, isOld, rfl⟩ := List.mem_map.mp member
  split
  next => exact sound
  next => exact allSound old isOld

theorem of_get? (allSound : AllSound entries) (held : get? key entries = some node) :
    node.Sound :=
  allSound (key, node) (mem_of_get? held)

theorem of_table {origin : Origin} (sound : (Node.table origin entries).Sound) :
    AllSound entries := by
  cases sound with
  | table origin below => exact below

theorem insert (sound : node.Sound) (allSound : AllSound entries)
    (inserted : insert key node path entries = some result) : AllSound result := by
  induction path generalizing entries result with
  | nil =>
      rw [Toml.insert] at inserted
      split at inserted
      next => cases inserted
      next =>
        cases inserted
        exact allSound.append_singleton sound
  | cons part path ih =>
      rw [Toml.insert] at inserted
      split at inserted
      next isNew =>
        obtain ⟨inner, isInner, rfl⟩ := Option.map_eq_some_iff.mp inserted
        exact allSound.append_singleton (.table .dotted (ih nil isInner))
      next origin inner found =>
        split at inserted
        next =>
          obtain ⟨inner, isInner, rfl⟩ := Option.map_eq_some_iff.mp inserted
          exact allSound.replace (.table origin (ih (of_table (allSound.of_get? found)) isInner))
        next => cases inserted
      next elements found =>
        split at inserted
        next =>
          split at inserted
          next => cases inserted
          next =>
            obtain ⟨inner, -, rfl⟩ := Option.map_eq_some_iff.mp inserted
            exact allSound.replace (.tables _)
        next => cases inserted
      next => cases inserted

theorem within {change : Entries → Option Entries}
    (keeps : ∀ {entries result}, AllSound entries → change entries = some result → AllSound result)
    (allSound : AllSound entries) (changed : within change path entries = some result) :
    AllSound result := by
  induction path generalizing entries result with
  | nil => exact keeps allSound changed
  | cons part path ih =>
      rw [Toml.within] at changed
      split at changed
      next isNew =>
        obtain ⟨inner, isInner, rfl⟩ := Option.map_eq_some_iff.mp changed
        exact allSound.append_singleton (.table .passage (ih nil isInner))
      next origin inner found =>
        split at changed
        next => cases changed
        next =>
          obtain ⟨inner, isInner, rfl⟩ := Option.map_eq_some_iff.mp changed
          exact allSound.replace (.table origin (ih (of_table (allSound.of_get? found)) isInner))
      next elements found =>
        split at changed
        next =>
          obtain ⟨inner, -, rfl⟩ := Option.map_eq_some_iff.mp changed
          exact allSound.replace (.tables _)
        next => cases changed
      next => cases changed

theorem openTable (allSound : AllSound entries) (opened : openTable key entries = some result) :
    AllSound result := by
  rw [Toml.openTable] at opened
  split at opened
  next =>
    cases opened
    exact allSound.append_singleton (.table .header nil)
  next inner found =>
    cases opened
    have others : AllSound (entries.filter fun entry => entry.1 ≠ key) :=
      fun entry member => allSound entry (List.mem_filter.mp member).1
    exact others.append_singleton (.table .header (of_table (allSound.of_get? found)))
  next => cases opened

theorem openElement (allSound : AllSound entries)
    (opened : openElement key entries = some result) : AllSound result := by
  rw [Toml.openElement] at opened
  split at opened
  next =>
    cases opened
    exact allSound.append_singleton (.tables _)
  next elements found =>
    cases opened
    exact allSound.replace (.tables _)
  next => cases opened

end AllSound

section Values

variable {text rest : List Char} {value : Value}

theorem integer?_ne_table {size : Int} (isValue : integer? size = some value)
    (entries : List (String × Value)) : value ≠ .table entries := by
  rw [integer?] at isValue
  split at isValue
  next =>
    cases isValue
    simp
  next => cases isValue

theorem float?_ne_table {negative : Bool} {digits : List Char} {power : Int}
    (isValue : float? negative digits power = some value)
    (entries : List (String × Value)) : value ≠ .table entries := by
  rw [float?] at isValue
  split at isValue
  next => cases isValue
  next =>
    cases isValue
    simp

theorem readBased_ne_table {base : Nat} (read : readBased base text = some (value, rest)) :
    ∀ entries, value ≠ .table entries := by
  obtain ⟨⟨digits, more⟩, -, read⟩ := Option.bind_eq_some_iff.mp read
  obtain ⟨number, isNumber, ⟨⟩⟩ := Option.bind_eq_some_iff.mp read
  exact integer?_ne_table isNumber

theorem readDecimal_ne_table {negative : Bool}
    (read : readDecimal negative text = some (value, rest)) :
    ∀ entries, value ≠ .table entries := by
  obtain ⟨⟨whole, afterWhole⟩, -, read⟩ := Option.bind_eq_some_iff.mp read
  obtain ⟨⟨decimals, afterDecimals⟩, -, read⟩ := Option.bind_eq_some_iff.mp read
  obtain ⟨⟨exponent, afterExponent⟩, -, read⟩ := Option.bind_eq_some_iff.mp read
  dsimp only at read
  split at read
  next =>
    obtain ⟨number, isNumber, ⟨⟩⟩ := Option.bind_eq_some_iff.mp read
    exact integer?_ne_table isNumber
  next =>
    obtain ⟨number, isNumber, ⟨⟩⟩ := Option.bind_eq_some_iff.mp read
    exact float?_ne_table isNumber

theorem readNumber_ne_table (read : readNumber text = some (value, rest)) :
    ∀ entries, value ≠ .table entries := by
  unfold readNumber at read
  split at read
  next => exact readBased_ne_table read
  next => exact readBased_ne_table read
  next => exact readBased_ne_table read
  next =>
    dsimp only at read
    unfold readUnsigned at read
    split at read
    next =>
      cases read
      simp
    next =>
      cases read
      simp
    next => exact readDecimal_ne_table read

theorem readPlain_ne_table (read : readPlain text = some (value, rest)) :
    ∀ entries, value ≠ .table entries := by
  rw [readPlain] at read
  split at read
  next =>
    cases read
    simp
  next => exact readNumber_ne_table read

theorem readScalar_ne_table (read : readScalar text = some (value, rest)) :
    ∀ entries, value ≠ .table entries := by
  unfold readScalar at read
  split at read
  next => cases read
  next =>
    cases read
    simp
  next =>
    cases read
    simp
  next =>
    split at read
    next =>
      obtain ⟨quoted, -, ⟨⟩⟩ := Option.bind_eq_some_iff.mp read
      simp
    next => exact readPlain_ne_table read

variable {node : Node}

theorem sound_readScalar
    (read : ((readScalar text).map fun read => (Node.leaf read.1, read.2)) = some (node, rest)) :
    node.Sound := by
  obtain ⟨⟨value, more⟩, isScalar, ⟨⟩⟩ := Option.map_eq_some_iff.mp read
  exact .leaf (readScalar_ne_table isScalar)

theorem AllSound.readPairs {item : List Char → Option (Node × List Char)}
    (itemSound : ∀ {text node rest}, item text = some (node, rest) → node.Sound) {fuel : Nat}
    {entries result : Entries} (allSound : AllSound entries)
    (read : readPairs item fuel entries text = some (result, rest)) : AllSound result := by
  induction fuel generalizing entries text with
  | zero => cases read
  | succ fuel ih =>
      rw [Toml.readPairs] at read
      obtain ⟨⟨path, key, afterKey⟩, -, read⟩ := Option.bind_eq_some_iff.mp read
      obtain ⟨afterSign, -, read⟩ := Option.bind_eq_some_iff.mp read
      obtain ⟨⟨node, afterNode⟩, isNode, read⟩ := Option.bind_eq_some_iff.mp read
      obtain ⟨more, inserted, read⟩ := Option.bind_eq_some_iff.mp read
      have moreSound := allSound.insert (itemSound isNode) inserted
      split at read
      next =>
        cases read
        exact moreSound
      next => exact ih moreSound read
      next => cases read

theorem sound_readInline {item : List Char → Option (Node × List Char)}
    (itemSound : ∀ {text node rest}, item text = some (node, rest) → node.Sound)
    (read : readInline item text = some (node, rest)) : node.Sound := by
  rw [readInline] at read
  split at read
  next =>
    cases read
    exact .table .inline AllSound.nil
  next =>
    obtain ⟨⟨entries, more⟩, isPairs, ⟨⟩⟩ := Option.map_eq_some_iff.mp read
    exact .table .inline (AllSound.nil.readPairs itemSound isPairs)

theorem sound_readNode {depth : Nat} (read : readNode depth text = some (node, rest)) :
    node.Sound := by
  induction depth generalizing text node rest with
  | zero => exact sound_readScalar read
  | succ depth ih =>
      unfold readNode at read
      split at read
      next =>
        obtain ⟨⟨items, more⟩, -, ⟨⟩⟩ := Option.map_eq_some_iff.mp read
        exact .list items
      next => exact sound_readInline ih read
      next => exact sound_readScalar read

theorem AllSound.readTable {draft result : Draft} (allSound : AllSound draft.root)
    (read : readTable draft text = some (result, rest)) : AllSound result.root := by
  obtain ⟨⟨path, key, afterKey⟩, -, read⟩ := Option.bind_eq_some_iff.mp read
  obtain ⟨afterBracket, -, read⟩ := Option.bind_eq_some_iff.mp read
  obtain ⟨afterLine, -, read⟩ := Option.bind_eq_some_iff.mp read
  obtain ⟨root, opened, ⟨⟩⟩ := Option.bind_eq_some_iff.mp read
  exact allSound.within AllSound.openTable opened

theorem AllSound.readElement {draft result : Draft} (allSound : AllSound draft.root)
    (read : readElement draft text = some (result, rest)) : AllSound result.root := by
  obtain ⟨⟨path, key, afterKey⟩, -, read⟩ := Option.bind_eq_some_iff.mp read
  obtain ⟨afterBracket, -, read⟩ := Option.bind_eq_some_iff.mp read
  obtain ⟨afterBrackets, -, read⟩ := Option.bind_eq_some_iff.mp read
  obtain ⟨afterLine, -, read⟩ := Option.bind_eq_some_iff.mp read
  obtain ⟨root, opened, ⟨⟩⟩ := Option.bind_eq_some_iff.mp read
  exact allSound.within AllSound.openElement opened

theorem AllSound.readPair {draft result : Draft} (allSound : AllSound draft.root)
    (read : readPair draft text = some (result, rest)) : AllSound result.root := by
  obtain ⟨⟨path, key, afterKey⟩, -, read⟩ := Option.bind_eq_some_iff.mp read
  obtain ⟨afterSign, -, read⟩ := Option.bind_eq_some_iff.mp read
  obtain ⟨⟨node, afterNode⟩, isNode, read⟩ := Option.bind_eq_some_iff.mp read
  obtain ⟨afterLine, -, read⟩ := Option.bind_eq_some_iff.mp read
  obtain ⟨root, inserted, ⟨⟩⟩ := Option.bind_eq_some_iff.mp read
  exact allSound.within (AllSound.insert (sound_readNode isNode)) inserted

theorem AllSound.readDraft {fuel : Nat} {draft result : Draft} (allSound : AllSound draft.root)
    (read : readDraft fuel draft text = some result) : AllSound result.root := by
  induction fuel generalizing draft text with
  | zero => cases read
  | succ fuel ih =>
      rw [Toml.readDraft] at read
      split at read
      next =>
        cases read
        exact allSound
      next =>
        obtain ⟨more, -, read⟩ := Option.bind_eq_some_iff.mp read
        exact ih allSound read
      next => exact ih allSound read
      next =>
        obtain ⟨more, -, read⟩ := Option.bind_eq_some_iff.mp read
        exact ih allSound read
      next =>
        obtain ⟨⟨next, more⟩, isElement, read⟩ := Option.bind_eq_some_iff.mp read
        exact ih (allSound.readElement isElement) read
      next =>
        obtain ⟨⟨next, more⟩, isTable, read⟩ := Option.bind_eq_some_iff.mp read
        exact ih (allSound.readTable isTable) read
      next =>
        obtain ⟨⟨next, more⟩, isPair, read⟩ := Option.bind_eq_some_iff.mp read
        exact ih (allSound.readPair isPair) read

end Values

theorem mem_foldl_put {α : Type} {entries table : List (String × α)} {entry : String × α}
    (member : entry ∈ entries.foldl (fun table entry => put entry.1 entry.2 table) table) :
    entry ∈ entries ∨ entry ∈ table := by
  induction entries generalizing table with
  | nil => exact Or.inr member
  | cons first later ih =>
      rcases ih member with isLater | isPut
      · exact Or.inl (List.mem_cons_of_mem _ isLater)
      · rcases mem_put isPut with rfl | inTable
        · exact Or.inl List.mem_cons_self
        · exact Or.inr inTable

theorem mem_of_mem_sorted {α : Type} {entries : List (String × α)} {entry : String × α}
    (member : entry ∈ sorted entries) : entry ∈ entries :=
  (mem_foldl_put member).resolve_right List.not_mem_nil

theorem exists_node_of_entryValues {entries : Entries} {values : List (String × Value)}
    (areValues : entryValues entries = some values) {entry : String × Value}
    (member : entry ∈ values) :
    ∃ node, (entry.1, node) ∈ entries ∧ node.value = some entry.2 := by
  induction entries generalizing values with
  | nil =>
      rw [entryValues] at areValues
      cases areValues
      cases member
  | cons first later ih =>
      obtain ⟨key, node⟩ := first
      rw [entryValues] at areValues
      split at areValues
      next value laterValues isValue areLater =>
        cases areValues
        rcases List.mem_cons.mp member with rfl | isLater
        · exact ⟨node, List.mem_cons_self, isValue⟩
        · obtain ⟨other, isEntry, otherValue⟩ := ih areLater isLater
          exact ⟨other, List.mem_cons_of_mem _ isEntry, otherValue⟩
      next => cases areValues

theorem exists_datetime {node : Node} {value : Value} (isValue : node.datetime? = some value) :
    ∃ datetime, value = .datetime datetime := by
  unfold Node.datetime? at isValue
  split at isValue
  next =>
    obtain ⟨datetime, -, rfl⟩ := Option.map_eq_some_iff.mp isValue
    exact ⟨datetime, rfl⟩
  next => cases isValue

theorem tidy_of_sound {node : Node} (sound : node.Sound) {value : Value}
    (isValue : node.value = some value) : value.Tidy := by
  induction sound generalizing value with
  | leaf notTable =>
      rw [Node.value] at isValue
      cases isValue
      exact .other notTable
  | list items =>
      rw [Node.value] at isValue
      obtain ⟨values, -, rfl⟩ := Option.map_eq_some_iff.mp isValue
      exact .other (by simp)
  | table origin below ih =>
      rw [Node.value] at isValue
      split at isValue
      next node spelled =>
        obtain ⟨datetime, rfl⟩ := exists_datetime isValue
        exact .other (by simp)
      next =>
        obtain ⟨values, areValues, rfl⟩ := Option.map_eq_some_iff.mp isValue
        refine .table (ordered_sorted values) fun entry member => ?_
        obtain ⟨node, isEntry, nodeValue⟩ :=
          exists_node_of_entryValues areValues (mem_of_mem_sorted member)
        exact ih _ isEntry nodeValue
  | tables elements =>
      rw [Node.value] at isValue
      obtain ⟨values, -, rfl⟩ := Option.map_eq_some_iff.mp isValue
      exact .other (by simp)

section Documents

variable {text : String} {value : Value}

theorem tidy_of_parse? (parsed : parse? text = some value) : value.Tidy := by
  obtain ⟨draft, isDraft, isValue⟩ := Option.bind_eq_some_iff.mp parsed
  have noEntries : AllSound (Draft.mk [] []).root := AllSound.nil
  exact tidy_of_sound (.table .header (noEntries.readDraft isDraft)) isValue

theorem isTable_of_parse? (parsed : parse? text = some value) :
    value.IsTable ∨ ∃ datetime, value = .datetime datetime := by
  obtain ⟨draft, -, isValue⟩ := Option.bind_eq_some_iff.mp parsed
  rw [Node.value] at isValue
  split at isValue
  next => exact Or.inr (exists_datetime isValue)
  next =>
    obtain ⟨values, -, rfl⟩ := Option.map_eq_some_iff.mp isValue
    exact Or.inl (.table (ordered_sorted values))

end Documents

end PhotoGallery.Toml
